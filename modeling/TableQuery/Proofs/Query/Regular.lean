import Mathlib.Data.List.Basic
import TableQuery.Proofs.Query.Scan

/-!
# Tokens — which lists of them a text has

`Regular` says of a list of tokens what every token list of a text has.
The scan keeps it: the piece read so far has its separators behind quotes,
and a separator outside quotes is met only where no quote is open, so a
token that leaves one open is the last. The other way round the texts of
such tokens, put together with spaces, are cut back into them
(`tokenize_joined`). So the joined tokens of a text are a text with the
same tokens, whatever blanks the text had.
-/

namespace TableQuery

namespace Token

variable {inside : Bool} {piece xs : List Char} {s : String} {t : Token} {ts : List Token}

/-- Every separator of the text stands behind an odd number of quotes. -/
def Guarded (s : String) : Prop :=
  ∀ front c back, s.toList = front ++ c :: back → isSeparator c = true → isOpen front = true

/-- Which lists of tokens a text has: words are not empty and have neither
separators nor quotes, literals have a quote and separators only in
quotes, and no token but the last leaves a quote open. -/
structure Regular (ts : List Token) : Prop where
  word : ∀ s, .word s ∈ ts → s ≠ "" ∧ ∀ c ∈ s.toList, c ≠ '\'' ∧ isSeparator c = false
  literal : ∀ s, .literal s ∈ ts → '\'' ∈ s.toList ∧ Guarded s
  front : ∀ t ∈ ts.dropLast, isOpen t.text.toList = false

/-! ## The two ways to say it -/

/-- Behind a text whose quotes are counted, a separator is inside quotes
if the number is odd. -/
theorem isGuarded_iff : isGuarded inside xs = true ↔
    ∀ front c back, xs = front ++ c :: back → isSeparator c = true →
      (inside ^^ isOpen front) = true := by
  constructor
  · rintro h front c back rfl hsep
    rw [isGuarded_append, Bool.and_eq_true] at h
    have hquote : c ≠ '\'' := by rintro rfl; exact absurd hsep (by decide)
    rw [isGuarded, if_neg hquote, hsep, Bool.not_true, Bool.or_false, Bool.and_eq_true] at h
    exact h.2.1
  · intro h
    induction xs generalizing inside with
    | nil => rfl
    | cons x xs ih =>
      have hrest : ∀ front c back, xs = front ++ c :: back → isSeparator c = true →
          (inside ^^ isOpen (x :: front)) = true := fun front c back hxs hsep =>
        h (x :: front) c back (by rw [hxs]; rfl) hsep
      by_cases hquote : x = '\''
      · subst hquote
        rw [isGuarded, if_pos rfl]
        refine ih fun front c back hxs hsep => ?_
        have hodd := hrest front c back hxs hsep
        rw [isOpen_quote] at hodd
        simpa using hodd
      · rw [isGuarded, if_neg hquote, Bool.and_eq_true, Bool.or_eq_true, Bool.not_eq_true']
        constructor
        · cases hsep : isSeparator x with
          | true => exact .inl (by simpa using h [] x xs rfl hsep)
          | false => exact .inr rfl
        · refine ih fun front c back hxs hsep => ?_
          have hodd := hrest front c back hxs hsep
          rwa [isOpen_cons_of_ne hquote] at hodd

theorem isGuarded_toList_iff : isGuarded false s.toList = true ↔ Guarded s := by
  rw [isGuarded_iff]
  simp [Guarded]

theorem areRegular_iff : areRegular ts = true ↔ Regular ts := by
  simp only [areRegular, Bool.and_eq_true, List.all_eq_true, Bool.not_eq_true']
  constructor
  · rintro ⟨hall, hfront⟩
    refine ⟨fun s hs => ?_, fun s hs => ?_, hfront⟩
    · exact isPlain_iff.1 (hall _ hs)
    · have hliteral := hall _ hs
      rw [isRegular, Bool.and_eq_true, List.contains_iff_mem, isGuarded_toList_iff] at hliteral
      exact hliteral
  · intro h
    refine ⟨fun t ht => ?_, h.front⟩
    cases t with
    | word s => exact isPlain_iff.2 (h.word s ht)
    | literal s =>
      rw [isRegular, Bool.and_eq_true, List.contains_iff_mem, isGuarded_toList_iff]
      exact h.literal s ht
    | comma => rfl
    | equals => rfl

instance : Decidable (Regular ts) :=
  decidable_of_iff _ areRegular_iff

/-! ## The tokens of a text -/

theorem text_ofPiece (cs : List Char) : (ofPiece cs).text = String.ofList cs := by
  unfold ofPiece
  split <;> rfl

theorem isOpen_of_mem_close (h : isOpen piece.reverse = false) :
    ∀ u ∈ close piece, isOpen u.text.toList = false := by
  cases piece with
  | nil => simp [close]
  | cons c cs => simpa [close, text_ofPiece] using h

theorem isOpen_of_mem_symbol {c : Char} : ∀ u ∈ symbol c, isOpen u.text.toList = false := by
  unfold symbol
  split
  · simp [text, isOpen]
  · split <;> simp [text, isOpen]

theorem mem_or_of_mem_dropLast_append {us vs : List Token} (h : t ∈ (us ++ vs).dropLast) :
    t ∈ us ∨ t ∈ vs.dropLast := by
  rw [List.dropLast_append] at h
  split at h
  · exact .inl ((List.dropLast_sublist _).mem h)
  · exact List.mem_append.1 h

/-- **Only the last token that the scan makes leaves a quote open.** A
token is ended by a separator, which is met outside quotes, or by the end
of the text. -/
theorem isOpen_of_mem_dropLast_scan (inside : Bool) (piece xs : List Char)
    (hinside : inside = isOpen piece.reverse) :
    ∀ u ∈ (scan inside piece xs).dropLast, isOpen u.text.toList = false := by
  induction inside, piece, xs using scan_induction with
  | nil inside piece => cases piece <;> simp [scan, close]
  | quote inside piece xs ih =>
    rw [scan_quote]
    exact ih (not_eq_isOpen_quote hinside)
  | quoted piece x xs hquote ih =>
    rw [scan_quoted hquote]
    exact ih (eq_isOpen_cons_of_ne hquote hinside)
  | separator piece x xs _ hx ih =>
    rw [scan_separator hx]
    intro u hu
    rcases mem_or_of_mem_dropLast_append hu with hu | hu
    · exact isOpen_of_mem_close hinside.symm u hu
    rcases mem_or_of_mem_dropLast_append hu with hu | hu
    · exact isOpen_of_mem_symbol u hu
    · exact ih rfl u hu
  | plain piece x xs hquote hx ih =>
    rw [scan_plain hquote hx]
    exact ih (eq_isOpen_cons_of_ne hquote hinside)

theorem regular_tokenize (s : String) : Regular (tokenize s) := by
  rw [← areRegular_iff, areRegular, Bool.and_eq_true, List.all_eq_true, List.all_eq_true]
  refine ⟨isRegular_of_mem_tokenize, fun u hu => ?_⟩
  have hclosed : isOpen u.text.toList = false :=
    isOpen_of_mem_dropLast_scan false [] s.toList rfl u hu
  rw [hclosed]
  rfl

/-! ## The text of tokens -/

/-- **Regular tokens are read back from their joined texts.** A space
stands behind every token but the last, and none of these leaves a quote
open. -/
theorem tokenize_joined (h : Regular ts) : tokenize (joined ts) = ts := by
  have hregular : ∀ t ∈ ts, t.isRegular = true := by
    have hall := areRegular_iff.2 h
    rw [areRegular, Bool.and_eq_true, List.all_eq_true] at hall
    exact hall.1
  rw [joined, tokenize_intercalate_blank_of_dropLast, List.flatMap_map]
  · calc ts.flatMap (fun t => tokenize t.text)
        = ts.flatMap fun t => [t] := List.flatMap_congr fun t ht => tokenize_text (hregular t ht)
      _ = ts := List.flatMap_singleton' ts
  · rw [← List.map_dropLast]
    exact List.forall_mem_map.2 h.front

/-- **Which lists of tokens a text has**: the regular ones. The tokens
joined with spaces are such a text, so a text and its joined tokens have
the same tokens. -/
theorem exists_tokenize_eq_iff (ts : List Token) :
    ((∃ s, tokenize s = ts) ↔ Regular ts) ∧
    (Regular ts → tokenize (joined ts) = ts) ∧
    ∀ s, tokenize (joined (tokenize s)) = tokenize s := by
  refine ⟨⟨?_, fun h => ⟨joined ts, tokenize_joined h⟩⟩, tokenize_joined, fun s => ?_⟩
  · rintro ⟨s, rfl⟩
    exact regular_tokenize s
  · exact tokenize_joined (regular_tokenize s)

/-- A quote that is left open takes in all that follows it. -/
example : ¬ Regular [.literal "it's", .word "x"] ∧ Regular [.word "x", .literal "it's, x"] := by
  decide

end Token

end TableQuery
