import Mathlib.Data.List.Basic
import Mathlib.Data.List.Induction
import TableQuery.Text.Character
import TableQuery.Text.Quoted

/-!
# Quoted text — nothing is lost in it

A character between the quotes has one of three forms: a letter behind a
backslash, its number in braces behind one, or itself (`Escaped`). The forms
are told apart by their first two characters, so a quoted text shows where
it ends and what it quotes (`delimited_chars`). No form has a line break, so
it stands on one line.
-/

namespace TableQuery

namespace Text

/-! ## Notations that show where they end

What is written in such a notation can be split off the front of any longer
text, and says what it was written for. So parts can be written one behind
the other and are told apart: behind a fixed text, in front of one, and in
sequences whose end has a mark (`Delimited.sequence`,
`Delimited.intercalate`). -/

section Notation

variable {α β : Type} {write : α → List Char} {stop : Char}

/-- Whether what is written shows where it ends and what it was written
for, whatever follows. -/
def Delimited (write : α → List Char) : Prop :=
  ∀ a b xs ys, write a ++ xs = write b ++ ys → a = b ∧ xs = ys

/-- A list with a separator is its first part and, for each of the others,
the separator and the part. -/
theorem intercalate_cons {separator part : List Char} (parts : List (List Char)) :
    separator.intercalate (part :: parts) = part ++ parts.flatMap (separator ++ ·) := by
  induction parts generalizing part with
  | nil => simp
  | cons part' parts ih => simp [List.intercalate_cons_cons, ih]

namespace Delimited

theorem injective (h : Delimited write) : Function.Injective write := fun a b heq =>
  (h a b [] [] (by rw [heq])).1

theorem comp {f : β → α} (h : Delimited write) (hf : Function.Injective f) :
    Delimited fun b => write (f b) := by
  intro a b xs ys heq
  obtain ⟨hab, hxs⟩ := h (f a) (f b) xs ys heq
  exact ⟨hf hab, hxs⟩

/-- A fixed text in front changes nothing. -/
theorem behind (h : Delimited write) (front : List Char) :
    Delimited fun a => front ++ write a := by
  intro a b xs ys heq
  rw [List.append_assoc, List.append_assoc] at heq
  exact h a b xs ys (List.append_cancel_left heq)

/-- Nor does one behind. -/
theorem before (h : Delimited write) (back : List Char) :
    Delimited fun a => write a ++ back := by
  intro a b xs ys heq
  rw [List.append_assoc, List.append_assoc] at heq
  obtain ⟨hab, hback⟩ := h a b _ _ heq
  exact ⟨hab, List.append_cancel_left hback⟩

/-- A mark that is never written shows the end. -/
theorem of_notMem (hwrite : Function.Injective write) (hstop : ∀ a, stop ∉ write a) :
    Delimited fun a => write a ++ [stop] := by
  intro a b xs ys heq
  simp only [List.append_assoc, List.singleton_append] at heq
  -- were one text longer, the mark behind the other would stand in it
  rcases List.append_eq_append_iff.1 heq with ⟨more, hb, hrest⟩ | ⟨more, ha, hrest⟩
  · cases more with
    | nil => exact ⟨hwrite (by simpa using hb.symm), by simpa using hrest⟩
    | cons c more =>
      obtain ⟨rfl, -⟩ := List.cons_eq_cons.1 hrest
      exact absurd (by simp [hb]) (hstop b)
  · cases more with
    | nil => exact ⟨hwrite (by simpa using ha), by simpa using hrest.symm⟩
    | cons c more =>
      obtain ⟨rfl, -⟩ := List.cons_eq_cons.1 hrest
      exact absurd (by simp [ha]) (hstop a)

/-- **A sequence shows its end by a mark** that nothing in it begins with. -/
theorem sequence (h : Delimited write) (hstop : ∀ a xs ys, write a ++ xs ≠ stop :: ys) :
    Delimited fun as : List α => as.flatMap write ++ [stop] := by
  intro as
  induction as with
  | nil =>
    intro bs xs ys heq
    cases bs with
    | nil => exact ⟨rfl, by simpa using heq⟩
    | cons b bs =>
      -- the longer sequence would go on with the mark
      simp only [List.flatMap_cons, List.append_assoc] at heq
      exact absurd heq.symm (hstop b _ xs)
  | cons a as ih =>
    intro bs xs ys heq
    simp only [List.flatMap_cons, List.append_assoc] at heq
    cases bs with
    | nil => exact absurd heq (hstop a _ ys)
    | cons b bs =>
      simp only [List.flatMap_cons, List.append_assoc] at heq
      obtain ⟨rfl, hrest⟩ := h a b _ _ heq
      obtain ⟨rfl, rfl⟩ := ih bs xs ys (by simpa using hrest)
      exact ⟨rfl, rfl⟩

/-- So does a sequence with a separator, if the separator does not begin
with the mark either. -/
theorem intercalate (h : Delimited write) (hstop : ∀ a xs ys, write a ++ xs ≠ stop :: ys)
    {separator : List Char} (hseparator : ∀ xs ys, separator ++ xs ≠ stop :: ys) :
    Delimited fun as : List α => separator.intercalate (as.map write) ++ [stop] := by
  have htail : Delimited fun as : List α =>
      as.flatMap (fun a => separator ++ write a) ++ [stop] :=
    (h.behind separator).sequence fun a xs ys heq =>
      hseparator (write a ++ xs) ys (by rw [← List.append_assoc, heq])
  intro as bs xs ys heq
  -- no separator stands in front of the first part, so it is split off by itself
  cases as with
  | nil =>
    cases bs with
    | nil => exact ⟨rfl, by simpa using heq⟩
    | cons b bs =>
      simp only [List.map_cons, intercalate_cons, List.append_assoc] at heq
      exact absurd heq.symm (hstop b _ xs)
  | cons a as =>
    simp only [List.map_cons, intercalate_cons, List.append_assoc] at heq
    cases bs with
    | nil => exact absurd heq (hstop a _ ys)
    | cons b bs =>
      simp only [List.map_cons, intercalate_cons, List.append_assoc] at heq
      obtain ⟨rfl, hrest⟩ := h a b _ _ heq
      obtain ⟨rfl, rfl⟩ := htail as bs xs ys (by simpa [List.flatMap_map] using hrest)
      exact ⟨rfl, rfl⟩

end Delimited

end Notation

/-! ## Hexadecimal numbers -/

/-- The number that hexadecimal digits stand for. -/
def number? (digits : List Char) : Option Nat :=
  digits.foldlM (fun n c => (hexValue? c).map (16 * n + ·)) 0

theorem number?_concat (digits : List Char) (c : Char) :
    number? (digits ++ [c]) = (number? digits).bind fun n => (hexValue? c).map (16 * n + ·) := by
  rw [number?, number?, List.foldlM_append]
  simp

/-- **A number is read back from its digits.** -/
theorem number?_toDigits (n : Nat) : number? (Nat.toDigits 16 n) = some n := by
  -- the last digit is taken off, and the number of the others is a sixteenth
  induction n using Nat.strongRecOn with
  | ind n ih =>
    rw [Nat.toDigits_eq_if (by decide)]
    split
    · rename_i hsmall
      have hvalue : hexValue? n.digitChar = some n := hexValue?_hexDigit n hsmall
      simp [number?, hvalue]
    · have hvalue : hexValue? (n % 16).digitChar = some (n % 16) :=
        hexValue?_hexDigit (n % 16) (Nat.mod_lt n (by decide))
      rw [number?_concat, ih (n / 16) (by omega), hvalue]
      simp only [Option.bind_some, Option.map_some, Option.some.injEq]
      omega

theorem isSome_of_mem_digits {digits : List Char} {n : Nat} (h : number? digits = some n) :
    ∀ c ∈ digits, (hexValue? c).isSome = true := by
  induction digits using List.reverseRecOn generalizing n with
  | nil => simp
  | append_singleton digits d ih =>
    rw [number?_concat, Option.bind_eq_some_iff] at h
    obtain ⟨m, hm, hd⟩ := h
    intro c hc
    rcases List.mem_append.1 hc with hc | hc
    · exact ih hm c hc
    · obtain rfl := List.mem_singleton.1 hc
      rw [Option.map_eq_some_iff] at hd
      obtain ⟨k, hk, -⟩ := hd
      rw [hk]
      rfl

theorem notMem_toDigits {c : Char} (h : hexValue? c = none) (n : Nat) :
    c ∉ Nat.toDigits 16 n := by
  intro hc
  have hvalue := isSome_of_mem_digits (number?_toDigits n) c hc
  rw [h] at hvalue
  cases hvalue

theorem toDigits_injective : Function.Injective (Nat.toDigits 16) := by
  intro m n h
  have hm := number?_toDigits m
  rw [h, number?_toDigits n] at hm
  exact (Option.some.inj hm).symm

namespace Quoted

variable {c d : Char} {cs ds xs ys : List Char}

/-! ## One character -/

/-- The brace behind a number is none of its digits. -/
theorem delimited_codePoint : Delimited codePoint := by
  have hdigits : Delimited fun n => Nat.toDigits 16 n ++ ['\x7d'] :=
    .of_notMem toDigits_injective (notMem_toDigits (by decide))
  have hcode : Function.Injective Char.toNat := fun _ _ h => Char.toNat_inj.1 h
  intro a b xs ys heq
  refine (hdigits.comp hcode).behind ['\\', 'u', '\x7b'] a b xs ys ?_
  simpa [codePoint] using heq

/-- The characters that are quoted as a letter. -/
def letters : List (Char × Char) :=
  [('\x00', '0'), ('\t', 't'), ('\r', 'r'), ('\n', 'n'), ('"', '"'), ('\\', '\\')]

/-- What a character can be quoted as. -/
inductive Escaped : Char → List Char → Prop
  | letter {c l : Char} : (c, l) ∈ letters → Escaped c ['\\', l]
  | number {c : Char} : Escaped c (codePoint c)
  | plain {c : Char} : c ≠ '"' → c ≠ '\\' → c ≠ '\n' → Escaped c [c]

theorem escaped_escape (c : Char) : Escaped c (escape c) := by
  unfold escape
  split
  · rename_i hnull
    exact .letter (by rw [hnull]; decide)
  split
  · rename_i htab
    exact .letter (by rw [htab]; decide)
  split
  · rename_i hreturn
    exact .letter (by rw [hreturn]; decide)
  split
  · rename_i hlineFeed
    exact .letter (by rw [hlineFeed]; decide)
  split
  · rename_i hquote
    exact .letter (by rw [hquote]; decide)
  split
  · rename_i hbackslash
    exact .letter (by rw [hbackslash]; decide)
  split
  · exact .number
  · rename_i hlineFeed hquote hbackslash _
    exact .plain hquote hbackslash hlineFeed

/-- **The forms are told apart**, from each other and from what follows. -/
theorem Escaped.eq_of_append_eq (hc : Escaped c cs) (hd : Escaped d ds)
    (heq : cs ++ xs = ds ++ ys) : c = d ∧ xs = ys := by
  -- behind a backslash the next character decides, and no letter is the one of a number
  have hletter : ∀ p ∈ letters, ∀ q ∈ letters, p.2 = q.2 → p.1 = q.1 := by decide
  have hnumber : ∀ p ∈ letters, p.2 ≠ 'u' := by decide
  cases hc with
  | @letter l hl =>
    cases hd with
    | @letter k hk =>
      simp only [List.cons_append, List.nil_append, List.cons.injEq, true_and] at heq
      exact ⟨hletter _ hl _ hk heq.1, heq.2⟩
    | number =>
      simp only [codePoint, List.cons_append, List.nil_append, List.cons.injEq, true_and] at heq
      exact absurd heq.1 (hnumber _ hl)
    | plain _ hbackslash _ => exact absurd (List.cons_eq_cons.1 heq).1.symm hbackslash
  | number =>
    cases hd with
    | @letter k hk =>
      simp only [codePoint, List.cons_append, List.nil_append, List.cons.injEq, true_and] at heq
      exact absurd heq.1.symm (hnumber _ hk)
    | number => exact delimited_codePoint c d xs ys heq
    | plain _ hbackslash _ => exact absurd (List.cons_eq_cons.1 heq).1.symm hbackslash
  | plain _ hbackslash _ =>
    cases hd with
    | letter _ => exact absurd (List.cons_eq_cons.1 heq).1 hbackslash
    | number => exact absurd (List.cons_eq_cons.1 heq).1 hbackslash
    | plain _ _ _ => exact List.cons_eq_cons.1 heq

theorem Escaped.append_ne_quote (h : Escaped c cs) : cs ++ xs ≠ '"' :: ys := by
  intro heq
  cases h with
  | letter _ => exact absurd (List.cons_eq_cons.1 heq).1 (by decide)
  | number => exact absurd (List.cons_eq_cons.1 heq).1 (by decide)
  | plain hquote _ _ => exact hquote (List.cons_eq_cons.1 heq).1

theorem Escaped.lineFeed_notMem (h : Escaped c cs) : '\n' ∉ cs := by
  have hletter : ∀ p ∈ letters, '\n' ≠ p.2 := by decide
  cases h with
  | letter hl => simpa using hletter _ hl
  | number => simpa [codePoint] using notMem_toDigits (by decide) c.toNat
  | plain _ _ hlineFeed => simpa using hlineFeed.symm

/-! ## Whole texts -/

/-- **A quoted text shows where it ends** and what it quotes. -/
theorem delimited_chars : Delimited chars := by
  have hescape : Delimited escape := fun c d _ _ heq =>
    (escaped_escape c).eq_of_append_eq (escaped_escape d) heq
  have hbody : Delimited fun cs : List Char => cs.flatMap escape ++ ['"'] :=
    hescape.sequence fun c _ _ => (escaped_escape c).append_ne_quote
  have htext : Function.Injective String.toList := fun _ _ h => String.toList_inj.1 h
  exact (hbody.comp htext).behind ['"']

theorem chars_append_ne {s : String} (hc : c ≠ '"') : chars s ++ xs ≠ c :: ys := by
  intro heq
  exact hc (List.cons_eq_cons.1 heq).1.symm

/-- **A quoted text stands on one line.** -/
theorem lineFeed_notMem_chars (s : String) : '\n' ∉ chars s := by
  have hbody : ∀ c ∈ s.toList, '\n' ∉ escape c := fun c _ => (escaped_escape c).lineFeed_notMem
  simpa [chars] using hbody

end Quoted

end Text

end TableQuery
