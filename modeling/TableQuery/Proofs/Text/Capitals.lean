import TableQuery.Proofs.Text.Uppercase

/-!
# Capitals — upper-casing twice

What upper-casing puts into a text is left as it is by upper-casing: none of
the capitals of the table is a letter of the table. The table is too long to
compare each capital with each run of letters, so both are read as sets of
numbers, each one number with a bit for every member, and two such numbers
without a common bit are sets without a common member.
-/

namespace TableQuery

namespace Text

namespace Uppercase

variable {n : Nat} {ns : List Nat} {r : Run}

/-- The code points of the letters of a run. -/
def Run.letters (r : Run) : List Nat :=
  (List.range ((r.last - r.first) / r.stride + 1)).map (r.first + r.stride * ·)

/-- The code points that the table has a capital for. -/
def letters : List Nat :=
  runs.flatMap Run.letters ++ expansions.map Prod.fst

/-- The code points that the table has as capitals. -/
def capitals : List Nat :=
  (runs.flatMap fun r => r.letters.map r.apply) ++ expansions.flatMap Prod.snd

theorem Run.mem_letters (h : r.covers n = true) : n ∈ r.letters := by
  simp only [Run.covers, Bool.and_eq_true, decide_eq_true_eq, beq_iff_eq] at h
  obtain ⟨⟨hfirst, hlast⟩, hstride⟩ := h
  have hn : r.first + r.stride * ((n - r.first) / r.stride) = n := by
    have hdiv := Nat.div_add_mod (n - r.first) r.stride
    omega
  have hle : (n - r.first) / r.stride ≤ (r.last - r.first) / r.stride :=
    Nat.div_le_div_right (by omega)
  exact List.mem_map.2 ⟨_, List.mem_range.2 (by omega), hn⟩

theorem mem_letters_of_covers (hr : r ∈ runs) (h : r.covers n = true) : n ∈ letters :=
  List.mem_append_left _ (List.mem_flatMap.2 ⟨r, hr, Run.mem_letters h⟩)

theorem mem_capitals_of_covers (hr : r ∈ runs) (h : r.covers n = true) : r.apply n ∈ capitals :=
  List.mem_append_left _
    (List.mem_flatMap.2 ⟨r, hr, List.mem_map_of_mem (Run.mem_letters h)⟩)

theorem mem_letters_of_lookup {cs : List Nat} (h : expansions.lookup n = some cs) :
    n ∈ letters ∧ cs ⊆ capitals := by
  obtain ⟨front, back, hmem, -⟩ := List.lookup_eq_some_iff.1 h
  have hentry : (n, cs) ∈ expansions := by simp [hmem]
  refine ⟨List.mem_append_right _ (List.mem_map.2 ⟨_, hentry, rfl⟩), fun c hc => ?_⟩
  exact List.mem_append_right _ (List.mem_flatMap.2 ⟨_, hentry, hc⟩)

/-! ## Sets of code points -/

/-- A set of numbers as a number with one bit for each. -/
def bits (ns : List Nat) : Nat :=
  ns.foldr (fun n m => 2 ^ n ||| m) 0

theorem testBit_bits_iff : (bits ns).testBit n = true ↔ n ∈ ns := by
  induction ns with
  | nil => simp [bits]
  | cons k ns ih =>
    have hcons : bits (k :: ns) = 2 ^ k ||| bits ns := rfl
    rw [hcons, Nat.testBit_or, Nat.testBit_two_pow, Bool.or_eq_true, decide_eq_true_iff, ih,
      List.mem_cons, eq_comm]

/-- **No capital is a letter of the table.** -/
theorem notMem_letters (h : n ∈ capitals) : n ∉ letters := by
  have hcommon : bits letters &&& bits capitals = 0 := by decide +kernel
  intro hletter
  have hbit : (bits letters &&& bits capitals).testBit n = true := by
    rw [Nat.testBit_and, testBit_bits_iff.2 hletter, testBit_bits_iff.2 h]
    rfl
  rw [hcommon, Nat.zero_testBit] at hbit
  cases hbit

/-- Every capital is the number of a character. -/
theorem isValidChar_of_mem_capitals (h : n ∈ capitals) : n.isValidChar := by
  have hvalid : ∀ n ∈ capitals, n < 0xD800 ∨ 0xDFFF < n ∧ n < 0x110000 := by decide +kernel
  exact hvalid n h

end Uppercase

open Uppercase

variable {c d : Char}

/-! ## Characters -/

/-- A character that is no letter of the table has no other capital. -/
theorem upperChar_of_notMem_letters (hc : 0x80 ≤ c.toNat) (h : c.toNat ∉ letters) :
    upperChar c = [c] := by
  rw [upperChar, if_neg (Nat.not_lt.2 hc)]
  split
  · rename_i hlookup
    exact absurd (mem_letters_of_lookup hlookup).1 h
  · split
    · rename_i hfind
      have hcovers := List.find?_some hfind
      exact absurd (mem_letters_of_covers (List.mem_of_find?_eq_some hfind) hcovers) h
    · rfl

/-- **What a character becomes**: itself, or capitals of the table. -/
theorem upperChar_eq_or_forall (hc : 0x80 ≤ c.toNat) :
    upperChar c = [c] ∨ ∀ d ∈ upperChar c, d.toNat ∈ capitals := by
  have hofNat {n : Nat} (hn : n ∈ capitals) : (Char.ofNat n).toNat ∈ capitals := by
    rwa [Char.toNat_ofNat, if_pos (isValidChar_of_mem_capitals hn)]
  rw [upperChar, if_neg (Nat.not_lt.2 hc)]
  split
  · rename_i cs hlookup
    refine .inr fun d hd => ?_
    obtain ⟨n, hn, rfl⟩ := List.mem_map.1 hd
    exact hofNat ((mem_letters_of_lookup hlookup).2 hn)
  · split
    · rename_i run hfind
      refine .inr fun d hd => ?_
      obtain rfl := List.mem_singleton.1 hd
      have hcovers := List.find?_some hfind
      exact hofNat (mem_capitals_of_covers (List.mem_of_find?_eq_some hfind) hcovers)
    · exact .inl rfl

/-- A capital of the table is left as it is, also where it is an ASCII
letter. -/
theorem upperChar_of_mem_capitals (h : d.toNat ∈ capitals) : upperChar d = [d] := by
  have hletter := notMem_letters h
  by_cases hascii : d.toNat < 0x80
  · -- the small ASCII letters are a run of the table
    have hlower : ¬ d.isLower = true := by
      intro hlower
      have hrun : (⟨0x61, 0x7A, 1, 0x41⟩ : Run) ∈ runs := List.mem_cons_self
      have hcovers : (⟨0x61, 0x7A, 1, 0x41⟩ : Run).covers d.toNat = true := by
        simp only [Char.isLower, Bool.and_eq_true, decide_eq_true_eq, ge_iff_le,
          UInt32.le_iff_toNat_le] at hlower
        have hle : 0x61 ≤ d.toNat := hlower.1
        have hge : d.toNat ≤ 0x7A := hlower.2
        simp [Run.covers, hle, hge, Nat.mod_one]
      exact hletter (mem_letters_of_covers hrun hcovers)
    rw [upperChar, if_pos hascii, Char.toUpper_eq_of_not_isLower hlower]
  · exact upperChar_of_notMem_letters (Nat.not_lt.1 hascii) hletter

/-- **No character that upper-casing gives is changed by it.** -/
theorem upperChar_of_mem_upperChar (h : d ∈ upperChar c) : upperChar d = [d] := by
  by_cases hascii : c.toNat < 0x80
  · have hupper : upperChar c = [c.toUpper] := by rw [upperChar, if_pos hascii]
    obtain rfl : d = c.toUpper := by simpa [hupper] using h
    rw [upperChar_toUpper, hupper]
  · rcases upperChar_eq_or_forall (Nat.not_lt.1 hascii) with hself | hcapitals
    · obtain rfl : d = c := by simpa [hself] using h
      exact hself
    · exact upperChar_of_mem_capitals (hcapitals d h)

theorem upperChar_ne_nil (c : Char) : upperChar c ≠ [] := by
  rcases upperChar_cases c with ⟨e, he, hc⟩ | ⟨a, hc, -⟩
  · have hentries : ∀ e ∈ expansions, e.2 ≠ [] := by decide +kernel
    rw [hc, ne_eq, List.map_eq_nil_iff]
    exact hentries e he
  · simp [hc]

/-- A character that is neither a letter nor a capital of the table comes from
itself only. -/
theorem eq_of_upperChar_eq (hd : d.isAlpha = false) (hcapital : d.toNat ∉ capitals)
    (h : upperChar c = [d]) : c = d := by
  by_cases hascii : c.toNat < 0x80
  · rw [upperChar, if_pos hascii, List.cons.injEq] at h
    exact (toUpper_eq_iff hd).1 h.1
  · rcases upperChar_eq_or_forall (Nat.not_lt.1 hascii) with hself | hcapitals
    · rw [hself, List.cons.injEq] at h
      exact h.1
    · exact absurd (hcapitals d (by simp [h])) hcapital

/-! ## Texts -/

theorem upperChars_eq_nil_iff {cs : List Char} : upperChars cs = [] ↔ cs = [] := by
  rw [upperChars, List.flatMap_eq_nil_iff, List.eq_nil_iff_forall_not_mem]
  exact forall₂_congr fun c _ => iff_false_intro (upperChar_ne_nil c)

/-- **Upper-casing a text twice is upper-casing it once**, ligatures and all. -/
theorem upper_upper (s : String) : upper (upper s) = upper s := by
  rw [← String.toList_inj, toList_upper, toList_upper, upperChars, upperChars, List.flatMap_assoc]
  refine List.flatMap_congr fun c _ => ?_
  have hself : (upperChar c).flatMap upperChar = (upperChar c).flatMap fun d => [d] :=
    List.flatMap_congr fun d hd => upperChar_of_mem_upperChar hd
  rw [hself, List.flatMap_singleton']

/-- Nothing but a star becomes a star. -/
theorem upper_eq_star_iff {s : String} : upper s = "*" ↔ s = "*" := by
  constructor
  · intro h
    rw [← String.toList_inj, toList_upper] at h
    rw [← String.toList_inj]
    cases hs : s.toList with
    | nil =>
      rw [hs] at h
      exact absurd h (by decide)
    | cons c cs =>
      have hcons : upperChar c ++ upperChars cs = ['*'] := by
        rw [hs, upperChars, List.flatMap_cons] at h
        exact h
      -- the first character has a capital, so it has the only one
      rcases List.append_eq_singleton_iff.1 hcons with ⟨hnil, -⟩ | ⟨hstar, hrest⟩
      · exact absurd hnil (upperChar_ne_nil c)
      · have hcapital : '*'.toNat ∉ capitals := by decide +kernel
        rw [eq_of_upperChar_eq (by decide) hcapital hstar, upperChars_eq_nil_iff.1 hrest]
        rfl
  · rintro rfl
    decide

end Text

end TableQuery
