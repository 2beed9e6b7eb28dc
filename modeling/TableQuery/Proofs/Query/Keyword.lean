import TableQuery.Proofs.Query.Printed

/-!
# Keywords — where they open a clause and where they end a list

Two tests decide what a word is. At the start of a clause its upper-case
form counts (`Opens`), and in a list it is compared in ASCII case
(`Token.isWord`). The second test is the narrower one. A word passes the
first and not the second if it is a keyword with `ı` for an `i` or `ſ` for
an `s` (`isWord_iff_opens`), so such a word opens a clause and is taken
into the table name of a `FROM`.
-/

namespace TableQuery

theorem Keyword.ligatureFree_text (k : Keyword) : Text.LigatureFree k.text.toList := by
  have hall : ∀ e ∈ Text.Uppercase.expansions, ∀ k ∈ Keyword.all,
      ¬ e.2.map Char.ofNat <:+: k.text.toList := by
    decide +kernel
  exact fun e he => hall e he k k.mem_all

namespace Clause

variable {t : Token} {ts list name rest : List Token} {k k' : Keyword} {w : String}

/-! ## The two tests -/

/-- **Which words open a clause**: the keywords in any ASCII case, where
each `i` and each `s` may be one of two letters. -/
theorem opens_word_iff :
    Opens (.word w) k ↔ (Token.word (Text.asciiTwins w)).isWord k.text = true := by
  rw [Token.isWord, ← Text.upper_eq_iff_sameWord k.isCapital_text k.ligatureFree_text]
  simp [Opens]

/-- **A word is a keyword in ASCII case if it opens a clause** and has
neither of the two letters. -/
theorem isWord_iff_opens : (Token.word w).isWord k.text = true ↔
    Opens (.word w) k ∧ 'ı' ∉ w.toList ∧ 'ſ' ∉ w.toList := by
  constructor
  · intro h
    have hletters := Text.isAlpha_of_sameWord k.isCapital_text h
    refine ⟨⟨w, rfl, Text.upper_eq_of_sameWord k.isCapital_text h⟩, fun hi => ?_, fun hs => ?_⟩
    · exact absurd (hletters _ hi) (by decide)
    · exact absurd (hletters _ hs) (by decide)
  · rintro ⟨hopens, hi, hs⟩
    rw [opens_word_iff, Text.asciiTwins_eq_self hi hs] at hopens
    exact hopens

/-- In a keyword without `i` and `s` there is no place for the two letters. -/
theorem isWord_source_iff_opens :
    (Token.word w).isWord Keyword.source.text = true ↔ Opens (.word w) .source := by
  rw [isWord_iff_opens]
  refine ⟨And.left, fun hopens => ⟨hopens, fun hi => ?_, fun hs => ?_⟩⟩
  · have hmem := Text.toLower_mem_of_sameWord (opens_word_iff.1 hopens) hi
    exact absurd hmem (by decide)
  · have hmem := Text.toLower_mem_of_sameWord (opens_word_iff.1 hopens) hs
    exact absurd hmem (by decide)

/-! ## At the start of a clause -/

/-- No two keywords read anything the same way. -/
theorem readBody_injective (h : readBody k ts = readBody k' ts) : k = k' := by
  cases hk : readBody k ts with
  | ok clause =>
    rw [hk] at h
    rw [← keyword_of_readBody hk, ← keyword_of_readBody h.symm]
  | error e =>
    rw [hk] at h
    obtain ⟨near, ⟨rfl, rfl⟩ | ⟨rfl, rfl⟩⟩ := of_readBody_eq_error hk
    · obtain ⟨near', ⟨rfl, -⟩ | ⟨-, he⟩⟩ := of_readBody_eq_error h.symm
      · rfl
      · cases he
    · obtain ⟨near', ⟨-, he⟩ | ⟨rfl, -⟩⟩ := of_readBody_eq_error h.symm
      · cases he
      · rfl

/-- A token is read as opening a clause if it spells the keyword. -/
theorem readOne_eq_readBody_iff : readOne t ts = readBody k ts ↔ Opens t k := by
  rw [← opener_eq_ok_iff]
  unfold readOne
  constructor
  · intro h
    split at h
    · -- what is no keyword fails otherwise than what lacks something
      rename_i e hopener
      obtain ⟨-, rfl⟩ := opener_eq_error_iff.1 hopener
      obtain ⟨near, ⟨-, he⟩ | ⟨-, he⟩⟩ := of_readBody_eq_error h.symm <;> cases he
    · rename_i k' hk
      rw [hk, readBody_injective h]
  · intro h
    rw [h]

/-! ## In a list -/

/-- A list that ends in front of a token is stopped by it. -/
theorem of_dropWhile_append_eq {p : Token → Bool}
    (h : (list ++ t :: rest).dropWhile (!p ·) = t :: rest) : p t = true := by
  have hstop : StopsAt p ((list ++ t :: rest).dropWhile (!p ·)) := stopsAt_dropWhile
  rw [h] at hstop
  exact stopsAt_cons.1 hstop

/-- **A word ends a table name** if it is a keyword in ASCII case. -/
theorem readBody_source_eq_iff (h : ∀ u ∈ name, u.isKeyword = false) :
    readBody .source (name ++ t :: rest) = .ok (.source (tableName name), t :: rest) ↔
      t.isKeyword = true := by
  constructor
  · intro hread
    simp only [readBody, Except.ok.injEq, Prod.mk.injEq] at hread
    exact of_dropWhile_append_eq hread.2
  · intro ht
    have hstop : StopsAt Token.isKeyword (t :: rest) := stopsAt_cons.2 ht
    simp only [readBody]
    rw [takeWhile_append_of_stopsAt h hstop, dropWhile_append_of_stopsAt h hstop]

/-- **A word ends the columns of a selection** if it is a `FROM` in ASCII
case. -/
theorem readBody_select_eq_iff (h : ∀ u ∈ list, u.isWord Keyword.source.text = false) :
    readBody .select (list ++ t :: rest) =
        .ok (.select (.ofColumns (columnNames list)), t :: rest) ↔
      t.isWord Keyword.source.text = true := by
  constructor
  · intro hread
    simp only [readBody, Except.ok.injEq, Prod.mk.injEq] at hread
    exact of_dropWhile_append_eq hread.2
  · intro ht
    have hstop : StopsAt (Token.isWord Keyword.source.text) (t :: rest) := stopsAt_cons.2 ht
    simp only [readBody]
    rw [takeWhile_append_of_stopsAt h hstop, dropWhile_append_of_stopsAt h hstop]

theorem isKeyword_word_iff : (Token.word w).isKeyword = true ↔
    (∃ k, Opens (.word w) k) ∧ 'ı' ∉ w.toList ∧ 'ſ' ∉ w.toList := by
  have hany : (Token.word w).isKeyword = true ↔
      ∃ k : Keyword, (Token.word w).isWord k.text = true := by
    simp [Token.isKeyword, Keyword.mem_all]
  simp only [hany, isWord_iff_opens, exists_and_right]

/-- **Where a word is a keyword.** It opens a clause if it is one in ASCII
case, `ı` counting as `i` and `ſ` as `s`. In lists they do not count so:
a word that has one of the two letters opens a clause and is still taken
into a table name, and apart from these words the tests agree. -/
theorem readOne_word_iff (w : String) :
    (∀ k ts, readOne (.word w) ts = readBody k ts ↔
      (Token.word (Text.asciiTwins w)).isWord k.text = true) ∧
    (∀ k ts, (Token.word w).isWord k.text = true ↔
      readOne (.word w) ts = readBody k ts ∧ 'ı' ∉ w.toList ∧ 'ſ' ∉ w.toList) ∧
    (∀ name rest, (∀ u ∈ name, u.isKeyword = false) →
      (readBody .source (name ++ .word w :: rest) =
          .ok (.source (tableName name), .word w :: rest) ↔
        (∃ k, readOne (.word w) rest = readBody k rest) ∧ 'ı' ∉ w.toList ∧ 'ſ' ∉ w.toList)) ∧
    ∀ list rest, (∀ u ∈ list, u.isWord Keyword.source.text = false) →
      (readBody .select (list ++ .word w :: rest) =
          .ok (.select (.ofColumns (columnNames list)), .word w :: rest) ↔
        readOne (.word w) rest = readBody .source rest) := by
  simp only [readOne_eq_readBody_iff]
  refine ⟨fun k ts => opens_word_iff, fun k ts => isWord_iff_opens, fun name rest h => ?_,
    fun list rest h => ?_⟩
  · rw [readBody_source_eq_iff h, isKeyword_word_iff]
  · rw [readBody_select_eq_iff h, isWord_source_iff_opens]

/-- `lımıt` opens a clause and is a word of a table name, so it is no
keyword in lists. -/
theorem parseQuery_limit_dotless :
    parseQuery "lımıt 1" = .ok [.limit "1"] ∧
      parseQuery "FROM t lımıt 1" = .ok [.source "t lımıt 1"] ∧
      (Token.word "lımıt").isWord Keyword.limit.text = false := by
  decide +kernel

end Clause

end TableQuery
