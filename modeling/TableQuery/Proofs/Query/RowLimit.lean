import Mathlib.Data.Nat.Digits.Defs
import TableQuery.Proofs.Query.Refusal
import TableQuery.Text.Character

/-!
# Row limits — the counts that are accepted

A count is accepted if it is a decimal text of a number from 0 to
2 ^ 63 - 1, with zeros in front of it and a sign if it likes; zero may be
negative. Every other text is refused under its own name.
-/

namespace TableQuery

namespace Text

/-! ## Decimal numbers

Digits are read from the left, and every digit makes the value before it ten
times as large. What comes out is the value that the places of the digits
give them (`digitsValue_digits`), so `IsNatural` and `IsInteger` say what is
read without going through a text: zeros in front change nothing, and no
text is too long. -/

variable {cs : List Char} {c : Char} {n : Nat} {z : Int}

/-- The text is one or more ASCII digits, of which the one at place `k` from
the right counts `10 ^ k` times. -/
def IsNatural (cs : List Char) (n : Nat) : Prop :=
  ∃ digits : List Nat, digits ≠ [] ∧ (∀ d ∈ digits, d < 10) ∧
    cs = (digits.map Nat.digitChar).reverse ∧ Nat.ofDigits 10 digits = n

/-- The text is one or more ASCII digits behind at most one sign. -/
inductive IsInteger : List Char → Int → Prop
  | plain {cs : List Char} {n : Nat} : IsNatural cs n → IsInteger cs n
  | plus {cs : List Char} {n : Nat} : IsNatural cs n → IsInteger ('+' :: cs) n
  | minus {cs : List Char} {n : Nat} : IsNatural cs n → IsInteger ('-' :: cs) (-n)

/-! ### Digits -/

theorem digitValue_digitChar {d : Nat} (h : d < 10) : digitValue d.digitChar = d := by
  rw [digitValue, Nat.toNat_digitChar_of_lt_ten h]
  exact Nat.add_sub_cancel_left 48 d

/-- A digit is the one of its value. -/
theorem digitChar_digitValue (h : c.isDigit = true) :
    digitValue c < 10 ∧ (digitValue c).digitChar = c := by
  obtain ⟨hlow, hhigh⟩ := Char.isDigit_iff_toNat.1 h
  change 48 ≤ c.toNat at hlow
  change c.toNat ≤ 57 at hhigh
  have hvalue : digitValue c = c.toNat - 48 := rfl
  have hlt : digitValue c < 10 := by omega
  refine ⟨hlt, Char.toNat_inj.1 ?_⟩
  rw [Nat.toNat_digitChar_of_lt_ten hlt]
  omega

/-- **Digits have the value of their places.** The induction is on the
places from the right; the last digit is read behind all others. -/
theorem digitsValue_digits {digits : List Nat} (h : ∀ d ∈ digits, d < 10) :
    digitsValue 0 (digits.map Nat.digitChar).reverse = Nat.ofDigits 10 digits := by
  induction digits with
  | nil => rfl
  | cons d digits ih =>
    obtain ⟨hd, hdigits⟩ := List.forall_mem_cons.1 h
    have hlast : digitsValue 0 ((d :: digits).map Nat.digitChar).reverse =
        10 * digitsValue 0 (digits.map Nat.digitChar).reverse + digitValue d.digitChar := by
      simp [digitsValue, List.foldl_append]
    rw [hlast, ih hdigits, digitValue_digitChar hd, Nat.ofDigits_cons, Nat.add_comm]

/-- A text of digits is written with their values. -/
theorem exists_digits (h : cs.all Char.isDigit = true) :
    ∃ digits : List Nat, (∀ d ∈ digits, d < 10) ∧ cs = (digits.map Nat.digitChar).reverse := by
  have hdigit : ∀ c ∈ cs, digitValue c < 10 ∧ (digitValue c).digitChar = c :=
    fun c hc => digitChar_digitValue (List.all_eq_true.1 h c hc)
  refine ⟨(cs.map digitValue).reverse, ?_, ?_⟩
  · simp only [List.mem_reverse, List.mem_map]
    rintro d ⟨c, hc, rfl⟩
    exact (hdigit c hc).1
  · have hsame : cs.map (fun c => (digitValue c).digitChar) = cs :=
      (List.map_congr_left fun c hc => (hdigit c hc).2).trans (List.map_id' cs)
    rw [List.map_reverse, List.reverse_reverse, List.map_map]
    exact hsame.symm

/-! ### Numbers -/

theorem natOfDigits?_eq_some_iff : natOfDigits? cs = some n ↔ IsNatural cs n := by
  rw [natOfDigits?, Option.ite_none_right_eq_some, Option.some_inj]
  constructor
  · rintro ⟨⟨hne, hall⟩, rfl⟩
    obtain ⟨digits, hdigits, rfl⟩ := exists_digits hall
    refine ⟨digits, ?_, hdigits, rfl, (digitsValue_digits hdigits).symm⟩
    rintro rfl
    exact hne rfl
  · rintro ⟨digits, hne, hdigits, rfl, rfl⟩
    refine ⟨⟨by simpa using hne, ?_⟩, digitsValue_digits hdigits⟩
    simpa [Nat.isDigit_digitChar] using hdigits

/-- Digits without a sign are read as they are. -/
theorem intOfDigits?_of_natOfDigits? (h : natOfDigits? cs = some n) :
    intOfDigits? cs = some (n : Int) := by
  unfold intOfDigits?
  split
  · -- a sign is no digit
    simp [natOfDigits?] at h
  · simp [natOfDigits?] at h
  · rw [h]
    rfl

/-- **A text is read as an integer** exactly if it is a decimal text of
it. -/
theorem intOfDigits?_eq_some_iff : intOfDigits? cs = some z ↔ IsInteger cs z := by
  constructor
  · intro h
    unfold intOfDigits? at h
    split at h
    all_goals
      obtain ⟨_, hread, rfl⟩ := Option.map_eq_some_iff.1 h
      obtain ⟨n, hn, hcast⟩ := Option.bind_eq_some_iff.1 hread
      cases hcast
    · exact .minus (natOfDigits?_eq_some_iff.1 hn)
    · exact .plus (natOfDigits?_eq_some_iff.1 hn)
    · exact .plain (natOfDigits?_eq_some_iff.1 hn)
  · intro h
    cases h with
    | plain hn => exact intOfDigits?_of_natOfDigits? (natOfDigits?_eq_some_iff.2 hn)
    | plus hn =>
      rw [intOfDigits?, natOfDigits?_eq_some_iff.2 hn]
      rfl
    | minus hn =>
      rw [intOfDigits?, natOfDigits?_eq_some_iff.2 hn]
      rfl

/-- A number is read back from its decimal text. -/
theorem intOfDigits?_toDigits (n : Nat) : intOfDigits? (Nat.toDigits 10 n) = some (n : Int) := by
  have hall : (Nat.toDigits 10 n).all Char.isDigit = true :=
    List.all_eq_true.2 fun _ => Nat.isDigit_of_mem_toDigits (by decide) (by decide)
  have hvalue : digitsValue 0 (Nat.toDigits 10 n) = n := by
    rw [digitsValue]
    exact Nat.ofDigitChars_eq_foldl.symm.trans (Nat.ofDigitChars_toDigits (by decide) (by decide))
  refine intOfDigits?_of_natOfDigits? ?_
  rw [natOfDigits?, if_pos ⟨Nat.toDigits_ne_nil, hall⟩, hvalue]

end Text

/-! ## Counts -/

variable {count : String} {n : Nat}

theorem rowLimit_eq_ok_iff :
    rowLimit count = .ok n ↔ Text.IsInteger count.toList n ∧ n ≤ 2 ^ 63 - 1 := by
  rw [← Text.intOfDigits?_eq_some_iff, rowLimit]
  cases hread : Text.intOfDigits? count.toList with
  | none => simp
  | some z =>
    have hmax : maxRowLimit = 2 ^ 63 - 1 := rfl
    simp only [Option.some_inj, hmax]
    split
    · rw [Except.ok.injEq]
      omega
    · simp only [reduceCtorEq, false_iff]
      omega

/-- **The counts that are accepted.** A count stands for the number that it
is a decimal text of, if that is not negative and below 2 ^ 63, however long
the text. Any other count is refused, and the error holds it unchanged. The
usual decimal text of a number is one of them. -/
theorem rowLimit_accepts :
    (∀ (count : String) (n : Nat),
      rowLimit count = .ok n ↔ Text.IsInteger count.toList n ∧ n ≤ 2 ^ 63 - 1) ∧
    (∀ (count : String) (e : QueryError), rowLimit count = .error e ↔
      (¬ ∃ n : Nat, Text.IsInteger count.toList n ∧ n ≤ 2 ^ 63 - 1) ∧ e = .invalidLimit count) ∧
    ∀ n : Nat, rowLimit (toString n) =
      if n ≤ 2 ^ 63 - 1 then .ok n else .error (.invalidLimit (toString n)) := by
  refine ⟨fun _ _ => rowLimit_eq_ok_iff, fun count e => ?_, fun n => ?_⟩
  · simp only [rowLimit_eq_error_iff, ne_eq, rowLimit_eq_ok_iff, not_exists]
  · have htext : Text.intOfDigits? (toString n).toList = some (n : Int) := by
      rw [Nat.toString_eq_repr, Nat.toList_repr, Text.intOfDigits?_toDigits]
    split
    · rename_i hle
      exact rowLimit_eq_ok_iff.2 ⟨Text.intOfDigits?_eq_some_iff.1 htext, hle⟩
    · rename_i hgt
      refine rowLimit_eq_error_iff.2 ⟨fun m hm => hgt ?_, rfl⟩
      obtain ⟨hinteger, hle⟩ := rowLimit_eq_ok_iff.1 hm
      rw [← Text.intOfDigits?_eq_some_iff, htext] at hinteger
      have hsame : n = m := by simpa using hinteger
      exact hsame ▸ hle

example : rowLimit "-000" = .ok 0 := by decide

example : rowLimit "9223372036854775808" = .error (.invalidLimit "9223372036854775808") := by
  decide

end TableQuery
