import Mathlib
import TableQuery.Text.Character
import TableQuery.Text.Uppercase

/-!
# Upper case — and ASCII case

Two words that differ in ASCII case only have the same upper-case form. A
word in capitals is therefore the upper-case form of every word that
differs from it in ASCII case only (`upper_eq_of_sameWord`).

The converse fails for two letters. `ı` and `ſ` are no ASCII letters and
their capitals `I` and `S` are, and no other letter has a single capital
that is (`upperChar_cases`). Ligatures have several: `ß` has `SS`. A
word in capitals that none of these occurs in is the upper-case form of the
words that differ from it in ASCII case only, once `i` and `s` are written
for the two letters (`upper_eq_iff_sameWord`).
-/

namespace TableQuery

namespace Text

/-- Whether a text is made of ASCII capitals. -/
def isCapital (s : String) : Bool :=
  s.toList.all Char.isUpper

theorem toNat_lt_of_isAlpha {c : Char} (h : c.isAlpha = true) : c.toNat < 0x80 := by
  simp only [Char.isAlpha, Char.isUpper, Char.isLower, Bool.or_eq_true, decide_eq_true_eq,
    Bool.and_eq_true, ge_iff_le, UInt32.le_iff_toNat_le] at h
  change c.val.toNat < 0x80
  rcases h with ⟨-, h⟩ | ⟨-, h⟩
  · exact Nat.lt_of_le_of_lt h (by decide)
  · exact Nat.lt_of_le_of_lt h (by decide)

theorem toUpper_eq_of_isUpper {c : Char} (h : c.isUpper = true) : c.toUpper = c := by
  refine Char.toUpper_eq_of_not_isLower fun hlower => ?_
  simp only [Char.isUpper, Char.isLower, decide_eq_true_eq, Bool.and_eq_true, ge_iff_le,
    UInt32.le_iff_toNat_le] at h hlower
  exact absurd (Nat.le_trans hlower.1 h.2) (by decide)

/-- A letter that differs from a capital in ASCII case only has it as its
upper-case form. -/
theorem upperChar_eq_of_toLower_eq {a b : Char} (hb : b.isUpper = true)
    (h : a.toLower = b.toLower) : upperChar a = [b] := by
  have halpha : a.isAlpha = true := by
    rw [← Char.isAlpha_toLower_eq_isAlpha, h, Char.isAlpha_toLower_eq_isAlpha, Char.isAlpha, hb]
    rfl
  have hupper : a.toUpper = b := by
    rw [← Char.toUpper_toLower_eq_toUpper, h, Char.toUpper_toLower_eq_toUpper,
      toUpper_eq_of_isUpper hb]
  rw [upperChar, if_pos (toNat_lt_of_isAlpha halpha), hupper]

theorem upperChars_eq_of_map_toLower_eq {xs ys : List Char} (hys : ∀ y ∈ ys, y.isUpper = true)
    (h : xs.map Char.toLower = ys.map Char.toLower) : upperChars xs = ys := by
  induction ys generalizing xs with
  | nil =>
    rw [List.map_eq_nil_iff.1 h]
    rfl
  | cons y ys ih =>
    obtain ⟨x, xs, rfl, hx, hxs⟩ := List.map_eq_cons_iff.1 h
    obtain ⟨hy, hys⟩ := List.forall_mem_cons.1 hys
    rw [upperChars, List.flatMap_cons, upperChar_eq_of_toLower_eq hy hx, ← upperChars, ih hys hxs]
    rfl

/-- **The upper-case form of a word is the capital word that it is up to
ASCII case.** -/
theorem upper_eq_of_sameWord {s t : String} (ht : isCapital t = true)
    (h : sameWord s t = true) : upper s = t := by
  rw [← String.toList_inj, toList_upper]
  exact upperChars_eq_of_map_toLower_eq (List.all_eq_true.1 ht) (by simpa [sameWord] using h)

/-! ## Letters whose capitals are ASCII letters -/

/-- The letter of a text that has ASCII letters written for the two that
have their capitals. -/
def asciiTwin (c : Char) : Char :=
  if c = 'ı' then 'i' else if c = 'ſ' then 's' else c

/-- The text with ASCII letters written for the two others that have their
capitals. -/
def asciiTwins (s : String) : String :=
  String.ofList (s.toList.map asciiTwin)

theorem upperChar_asciiTwin (c : Char) : upperChar (asciiTwin c) = upperChar c := by
  unfold asciiTwin
  split
  · rename_i hc
    rw [hc]
    decide
  · split
    · rename_i hc
      rw [hc]
      decide
    · rfl

theorem upper_asciiTwins (s : String) : upper (asciiTwins s) = upper s := by
  rw [← String.toList_inj, toList_upper, toList_upper, asciiTwins, String.toList_ofList]
  simp [upperChars, List.flatMap_map, upperChar_asciiTwin]

theorem asciiTwins_eq_self {s : String} (hi : 'ı' ∉ s.toList) (hs : 'ſ' ∉ s.toList) :
    asciiTwins s = s := by
  rw [← String.toList_inj, asciiTwins, String.toList_ofList]
  refine (List.map_congr_left fun c hc => ?_).trans (List.map_id _)
  have hci : c ≠ 'ı' := fun heq => hi (heq ▸ hc)
  have hcs : c ≠ 'ſ' := fun heq => hs (heq ▸ hc)
  simp [asciiTwin, hci, hcs]

open Uppercase in
/-- Only these two runs of letters have ASCII capitals. -/
theorem Uppercase.eq_of_apply_lt {run : Run} {n : Nat} (hrun : run ∈ runs)
    (hcovers : run.covers n = true) (hn : 0x80 ≤ n) (hlt : run.apply n < 0x80) :
    n = 0x131 ∧ run.apply n = 0x49 ∨ n = 0x17F ∧ run.apply n = 0x53 := by
  have hruns : ∀ r ∈ runs, 0x80 ≤ r.last → r.target < 0x80 →
      r.first = r.last ∧
        (r.first = 0x131 ∧ r.target = 0x49 ∨ r.first = 0x17F ∧ r.target = 0x53) := by
    decide +kernel
  simp only [Run.covers, Bool.and_eq_true, decide_eq_true_eq] at hcovers
  unfold Run.apply at hlt ⊢
  obtain ⟨hsingle, hfirst⟩ := hruns run hrun (by omega) (by omega)
  omega

theorem lt_of_isUpper_ofNat {n : Nat} (h : (Char.ofNat n).isUpper = true) : n < 0x80 := by
  have halpha : (Char.ofNat n).isAlpha = true := by simp [Char.isAlpha, h]
  have hlt := toNat_lt_of_isAlpha halpha
  rw [Char.toNat_ofNat] at hlt
  split at hlt
  · exact hlt
  · rename_i hinvalid
    -- a number of no character stands for the character 0, which is no letter
    have hzero : (Char.ofNat n).toNat = 0 := by rw [Char.toNat_ofNat, if_neg hinvalid]
    rw [← Char.ofNat_toNat (Char.ofNat n), hzero] at h
    exact absurd h (by decide)

open Uppercase in
/-- **A letter has several capitals or one.** Where the one is an ASCII
letter, the letter is up to ASCII case the same, or one of the two others
that have such a capital. -/
theorem upperChar_cases (c : Char) :
    (∃ e ∈ expansions, upperChar c = e.2.map Char.ofNat) ∨
      ∃ a, upperChar c = [a] ∧ (a.isUpper = true → (asciiTwin c).toLower = a.toLower) := by
  unfold upperChar
  split
  · rename_i hascii
    refine .inr ⟨c.toUpper, rfl, fun _ => ?_⟩
    have hi : c ≠ 'ı' := by rintro rfl; exact absurd hascii (by decide)
    have hs : c ≠ 'ſ' := by rintro rfl; exact absurd hascii (by decide)
    simp [asciiTwin, hi, hs, Char.toLower_toUpper_eq_toLower]
  rename_i hascii
  split
  · rename_i capitals hlookup
    obtain ⟨_, _, hmem, -⟩ := List.lookup_eq_some_iff.1 hlookup
    exact .inl ⟨(c.toNat, capitals), by simp [hmem], rfl⟩
  split
  · rename_i run hfind
    refine .inr ⟨_, rfl, fun hupper => ?_⟩
    have hlt := lt_of_isUpper_ofNat hupper
    have hcovers := List.find?_some hfind
    rcases eq_of_apply_lt (List.mem_of_find?_eq_some hfind) hcovers (by omega) hlt with
      ⟨hn, happly⟩ | ⟨hn, happly⟩
    · rw [happly, ← Char.ofNat_toNat c, hn]
      decide
    · rw [happly, ← Char.ofNat_toNat c, hn]
      decide
  · refine .inr ⟨c, rfl, fun hupper => ?_⟩
    have halpha : c.isAlpha = true := by simp [Char.isAlpha, hupper]
    exact absurd (toNat_lt_of_isAlpha halpha) hascii

/-- Whether the capitals of no ligature stand in a text. -/
def LigatureFree (cs : List Char) : Prop :=
  ∀ e ∈ Uppercase.expansions, ¬ e.2.map Char.ofNat <:+: cs

theorem map_toLower_eq_of_upperChars_eq {xs ys : List Char} (hys : ∀ y ∈ ys, y.isUpper = true)
    (hfree : LigatureFree ys) (h : upperChars xs = ys) :
    (xs.map asciiTwin).map Char.toLower = ys.map Char.toLower := by
  induction xs generalizing ys with
  | nil =>
    rw [← h]
    rfl
  | cons x xs ih =>
    rw [upperChars, List.flatMap_cons, ← upperChars] at h
    rcases upperChar_cases x with ⟨e, he, hx⟩ | ⟨a, hx, ha⟩
    · rw [hx] at h
      exact absurd (h ▸ (List.prefix_append _ _).isInfix) (hfree e he)
    · rw [hx, List.singleton_append] at h
      subst h
      obtain ⟨hupper, hxs⟩ := List.forall_mem_cons.1 hys
      have hrest : LigatureFree (upperChars xs) := fun e he hwithin =>
        hfree e he (hwithin.trans (List.suffix_cons _ _).isInfix)
      simp only [List.map_cons, ha hupper, ih hxs hrest rfl]

/-- A word that is a word in capitals up to ASCII case has ASCII letters
only. -/
theorem isAlpha_of_sameWord {s t : String} (ht : isCapital t = true) (h : sameWord s t = true) :
    ∀ c ∈ s.toList, c.isAlpha = true := by
  intro c hc
  have hlower : s.toList.map Char.toLower = t.toList.map Char.toLower := by
    simpa [sameWord] using h
  have hmem : c.toLower ∈ t.toList.map Char.toLower :=
    hlower ▸ List.mem_map_of_mem hc
  obtain ⟨b, hb, heq⟩ := List.mem_map.1 hmem
  have hupper : b.isUpper = true := List.all_eq_true.1 ht b hb
  rw [← Char.isAlpha_toLower_eq_isAlpha, ← heq, Char.isAlpha_toLower_eq_isAlpha, Char.isAlpha,
    hupper]
  rfl

theorem toLower_mem_of_sameWord {s t : String} {c : Char} (h : sameWord (asciiTwins s) t = true)
    (hc : c ∈ s.toList) : (asciiTwin c).toLower ∈ t.toList.map Char.toLower := by
  have hlower : (s.toList.map asciiTwin).map Char.toLower = t.toList.map Char.toLower := by
    simpa [sameWord, asciiTwins] using h
  exact hlower ▸ List.mem_map_of_mem (List.mem_map_of_mem hc)

/-- **Which words have a word in capitals as their upper-case form.** -/
theorem upper_eq_iff_sameWord {s t : String} (ht : isCapital t = true)
    (hfree : LigatureFree t.toList) : upper s = t ↔ sameWord (asciiTwins s) t = true := by
  constructor
  · rintro rfl
    rw [toList_upper] at hfree
    have hys : ∀ y ∈ upperChars s.toList, y.isUpper = true := by
      simpa [isCapital] using ht
    simpa [sameWord, asciiTwins] using map_toLower_eq_of_upperChars_eq hys hfree rfl
  · intro h
    rw [← upper_asciiTwins]
    exact upper_eq_of_sameWord ht h

/-! ## What capitals of ASCII letters change

Writing small ASCII letters as capitals changes letters into letters and
nothing else. So it moves no character that is none, it does not show once
a text is upper-cased (`upper_asciiUpper`), and it makes no difference to a
comparison in ASCII case (`sameWord_asciiUpper`). -/

variable {c d : Char} {s t : String}

/-! ### Characters -/

theorem toUpper_eq_self (hc : c.isAlpha = false) : c.toUpper = c := by
  refine Char.toUpper_eq_of_not_isLower fun hlower => ?_
  rw [Char.isAlpha, hlower, Bool.or_true] at hc
  cases hc

/-- No letter becomes a character that is none. -/
theorem toUpper_eq_iff (hd : d.isAlpha = false) : c.toUpper = d ↔ c = d := by
  constructor
  · intro h
    have hc : c.isAlpha = false := by rw [← Char.isAlpha_toUpper_eq_isAlpha, h, hd]
    rw [← h, toUpper_eq_self hc]
  · rintro rfl
    exact toUpper_eq_self hd

theorem isBlank_of_isAlpha (hc : c.isAlpha = true) : isBlank c = false := by
  have hlt := toNat_lt_of_isAlpha hc
  have hle : 0x41 ≤ c.toNat := by
    simp only [Char.isAlpha, Char.isUpper, Char.isLower, Bool.or_eq_true, decide_eq_true_eq,
      Bool.and_eq_true, ge_iff_le, UInt32.le_iff_toNat_le] at hc
    change 0x41 ≤ c.val.toNat
    rcases hc with ⟨hle, -⟩ | ⟨hle, -⟩
    · exact hle
    · exact Nat.le_trans (by decide) hle
  simp only [isBlank, Bool.or_eq_false_iff, Bool.and_eq_false_iff, decide_eq_false_iff_not,
    beq_eq_false_iff_ne]
  omega

theorem isBlank_toUpper (c : Char) : isBlank c.toUpper = isBlank c := by
  cases hc : c.isAlpha with
  | true =>
    rw [isBlank_of_isAlpha hc, isBlank_of_isAlpha (by rw [Char.isAlpha_toUpper_eq_isAlpha, hc])]
  | false => rw [toUpper_eq_self hc]

theorem upperChar_toUpper (c : Char) : upperChar c.toUpper = upperChar c := by
  cases hc : c.isAlpha with
  | true =>
    have hupper : c.toUpper.isAlpha = true := by rw [Char.isAlpha_toUpper_eq_isAlpha, hc]
    rw [upperChar, if_pos (toNat_lt_of_isAlpha hupper), Char.toUpper_toUpper_eq_toUpper, upperChar,
      if_pos (toNat_lt_of_isAlpha hc)]
  | false => rw [toUpper_eq_self hc]

/-! ### Texts -/

@[simp] theorem toList_asciiUpper (s : String) :
    (asciiUpper s).toList = s.toList.map Char.toUpper :=
  String.toList_ofList

theorem asciiUpper_append (s t : String) : asciiUpper (s ++ t) = asciiUpper s ++ asciiUpper t := by
  simp [← String.toList_inj]

theorem asciiUpper_intercalate (sep : String) (ss : List String) :
    asciiUpper (sep.intercalate ss) = (asciiUpper sep).intercalate (ss.map asciiUpper) := by
  induction ss with
  | nil => rfl
  | cons s ss ih =>
    cases ss with
    | nil => simp
    | cons s' ss =>
      rw [String.intercalate_cons_cons, asciiUpper_append, asciiUpper_append, ih]
      simp only [List.map_cons, String.intercalate_cons_cons]

/-- **Upper-casing hides what letter case a text had.** -/
theorem upper_asciiUpper (s : String) : upper (asciiUpper s) = upper s := by
  rw [← String.toList_inj, toList_upper, toList_upper, toList_asciiUpper, upperChars, upperChars,
    List.flatMap_map]
  simp only [upperChar_toUpper]

theorem sameWord_asciiUpper (s t : String) : sameWord (asciiUpper s) t = sameWord s t := by
  rw [sameWord, toList_asciiUpper, List.map_map, sameWord]
  congr 2
  exact funext Char.toLower_toUpper_eq_toLower

end Text

end TableQuery
