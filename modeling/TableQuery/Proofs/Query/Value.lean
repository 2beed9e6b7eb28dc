import TableQuery.Proofs.Query.Printed
import TableQuery.Proofs.Query.Regular

/-!
# Values — which ones a condition can have

The value of a condition is the text of a token without the quotes at its
ends. In a token every separator stands behind an odd number of quotes, and
of these the ones in front of the value are gone. Whether their number was
odd is all that counts of them, so one quote in front of a value, or none,
writes every value that there is (`exists_parseQuery_value_iff`).
-/

namespace TableQuery

open Token Clause

variable {u : Token} {rest ts : List Token} {cs : List Clause} {c : Condition} {s v : String}

/-- Whether a condition can have the value: it has no quote at either end,
and if `p` quotes stood in front of it, for `p` zero or one, each of its
separators would be behind an odd number of quotes. -/
def IsValue (v : String) : Prop :=
  v.toList.head? ≠ some '\'' ∧ v.toList.getLast? ≠ some '\'' ∧
    ∃ p, (p = 0 ∨ p = 1) ∧ ∀ front x back, v.toList = front ++ x :: back →
      isSeparator x = true → (p + front.count '\'') % 2 = 1

/-- Quotes in front of a text are known by whether they leave one open. -/
theorem isGuarded_iff_count {p : Nat} {xs : List Char} :
    isGuarded (p % 2 == 1) xs = true ↔
      ∀ front x back, xs = front ++ x :: back → isSeparator x = true →
        (p + front.count '\'') % 2 = 1 := by
  have hcount (front : List Char) :
      ((p % 2 == 1) ^^ isOpen front) = true ↔ (p + front.count '\'') % 2 = 1 := by
    rw [isOpen, Bool.xor_iff_ne, ne_eq, Bool.eq_iff_iff, beq_iff_eq, beq_iff_eq]
    omega
  simp only [isGuarded_iff, hcount]

theorem isValue_iff : IsValue v ↔
    v.toList.head? ≠ some '\'' ∧ v.toList.getLast? ≠ some '\'' ∧
      ∃ inside, isGuarded inside v.toList = true := by
  simp only [IsValue, ← isGuarded_iff_count, Bool.exists_bool, or_and_right, exists_or,
    exists_eq_left]
  rfl

instance : Decidable (IsValue v) :=
  decidable_of_iff _ isValue_iff.symm

/-- A quote within a value may open or close what its separators stand in. -/
example : IsValue "" ∧ IsValue "a b" ∧ IsValue "a'b c" ∧ ¬ IsValue "a b'c d" ∧ ¬ IsValue "a'" := by
  decide

/-! ## The value of a token -/

theorem Token.isGuarded_of_isRegular (h : u.isRegular = true) :
    isGuarded false u.text.toList = true ∨ u = .comma ∨ u = .equals := by
  cases u with
  | word s => exact .inl (isGuarded_of_forall (isPlain_iff.1 h).2)
  | literal s =>
    rw [isRegular, Bool.and_eq_true] at h
    exact .inl h.2
  | comma => exact .inr (.inl rfl)
  | equals => exact .inr (.inr rfl)

/-- **The value of a token** lies behind quotes that are gone. -/
theorem isValue_of_bares (hu : u.isRegular = true) (h : Bares u.text v) : IsValue v := by
  obtain ⟨front, back, htext, -, -, hhead, hlast⟩ := id h
  refine isValue_iff.2 ⟨hhead, hlast, ?_⟩
  rcases isGuarded_of_isRegular hu with hguarded | rfl | rfl
  · rw [htext, isGuarded_append, isGuarded_append, Bool.and_eq_true, Bool.and_eq_true] at hguarded
    exact ⟨_, hguarded.1.2⟩
  -- a symbol is its own value, and would be kept in quotes
  · obtain rfl := eq_unquoted_of_bares h
    exact ⟨true, by decide⟩
  · obtain rfl := eq_unquoted_of_bares h
    exact ⟨true, by decide⟩

theorem Clause.Spells.exists_quoted (h : Spells rest ts cs) (hc : .filter c ∈ cs) :
    ∃ u ∈ ts, Bares u.text c.value := by
  obtain ⟨seg, tail, hseg, hsub⟩ := h.exists_segment hc
  cases hseg with
  | filter _ hvalue => exact ⟨_, hsub (by simp), hvalue⟩

theorem isValue_of_parseQuery (h : parseQuery s = .ok cs) (hc : .filter c ∈ cs) :
    IsValue c.value := by
  obtain ⟨u, hu, hvalue⟩ := (spells_of_parse h).exists_quoted hc
  exact isValue_of_bares (isRegular_of_mem_tokenize u hu) hvalue

/-! ## A token for a value -/

theorem Clause.Bares.of_append {front : List Char} (hfront : ∀ x ∈ front, x = '\'')
    (hhead : v.toList.head? ≠ some '\'') (hlast : v.toList.getLast? ≠ some '\'') :
    Bares (String.ofList (front ++ v.toList)) v :=
  ⟨front, [], by simp, hfront, by simp, hhead, hlast⟩

/-- **Every such value has a token**: the value itself, or the value behind
a quote. -/
theorem IsValue.exists_text (h : IsValue v) :
    ∃ q : String, q ≠ "" ∧ isGuarded false q.toList = true ∧ Bares q v := by
  obtain ⟨hhead, hlast, inside, hguarded⟩ := isValue_iff.1 h
  by_cases hbare : inside = false ∧ v ≠ ""
  · obtain ⟨rfl, hne⟩ := hbare
    have hbares : Bares (String.ofList ([] ++ v.toList)) v := .of_append (by simp) hhead hlast
    rw [List.nil_append, String.ofList_toList] at hbares
    exact ⟨v, hne, hguarded, hbares⟩
  · -- the empty text is no token, but a quote alone is one
    have hquoted : isGuarded true v.toList = true := by
      cases inside with
      | true => exact hguarded
      | false =>
        obtain rfl : v = "" := by simpa using hbare
        rfl
    have hbares : Bares (String.ofList (['\''] ++ v.toList)) v := .of_append (by simp) hhead hlast
    refine ⟨String.ofList ('\'' :: v.toList), ?_, ?_, hbares⟩
    · simp [← String.toList_inj]
    · rw [String.toList_ofList, isGuarded, if_pos rfl]
      exact hquoted

/-- A query with one condition, whose value is a single token. -/
theorem parseQuery_where (hq : s ≠ "") (hguarded : isGuarded false s.toList = true)
    (hvalue : Bares s v) :
    parseQuery ("WHERE a =" ++ " " ++ s) = .ok [.filter ⟨"A", "=", v⟩] := by
  have htokens : tokenize ("WHERE a =" ++ " " ++ s) =
      [.word "WHERE", .word "a", .equals, ofPiece s.toList] := by
    have hfront : tokenize "WHERE a =" = [.word "WHERE", .word "a", .equals] := by decide
    rw [tokenize_append_blank (by decide), hfront, tokenize_of_isGuarded hq hguarded]
    rfl
  have htext : (ofPiece s.toList).text = s := by rw [text_ofPiece, String.ofList_toList]
  have hsegment : Segment [.word "WHERE", .word "a", .equals, ofPiece s.toList]
      (.filter ⟨"A", "=", v⟩) [] :=
    .filter (opens_text .filter) (htext.symm ▸ hvalue)
  rw [parseQuery, htokens]
  exact parse_of_spells (.cons hsegment .nil)

/-- **Which values a condition can have.** All values without quotes are
among them, and none that has a quote at one of its ends. -/
theorem exists_parseQuery_value_iff (v : String) :
    ((∃ query cs c, parseQuery query = .ok cs ∧ .filter c ∈ cs ∧ c.value = v) ↔ IsValue v) ∧
    ('\'' ∉ v.toList →
      ∃ query cs c, parseQuery query = .ok cs ∧ .filter c ∈ cs ∧ c.value = v) ∧
    ∀ query cs c, parseQuery query = .ok cs → .filter c ∈ cs →
      c.value.toList.head? ≠ some '\'' ∧ c.value.toList.getLast? ≠ some '\'' := by
  have hwritten (h : IsValue v) :
      ∃ query cs c, parseQuery query = .ok cs ∧ .filter c ∈ cs ∧ c.value = v := by
    obtain ⟨q, hq, hguarded, hvalue⟩ := h.exists_text
    exact ⟨_, _, _, parseQuery_where hq hguarded hvalue, List.mem_cons_self, rfl⟩
  refine ⟨⟨?_, hwritten⟩, fun hquote => hwritten ?_, fun query cs c hparse hc => ?_⟩
  · rintro ⟨query, cs, c, hparse, hc, rfl⟩
    exact isValue_of_parseQuery hparse hc
  · refine isValue_iff.2 ⟨fun hhead => ?_, fun hlast => ?_, true, ?_⟩
    · exact hquote (List.mem_of_head? hhead)
    · exact hquote (List.mem_of_getLast? hlast)
    · -- a quote in front of the value is closed by one behind it
      have hguarded : isGuarded true (v.toList ++ ['\'']) = true := isGuarded_append_quote hquote
      rw [isGuarded_append, Bool.and_eq_true] at hguarded
      exact hguarded.1
  · have hvalue := isValue_of_parseQuery hparse hc
    exact ⟨hvalue.1, hvalue.2.1⟩

end TableQuery
