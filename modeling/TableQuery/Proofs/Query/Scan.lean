import TableQuery.Query.Syntax

/-!
# Tokens — what the scan makes of a text

The scan does one of four things with a character: it is a quote, it
stands inside quotes, it is a separator or it is none of these. These are
the cases of every proof about it (`scan_induction`). Two laws follow. A
separator outside quotes cuts the text, and what follows is read as if
nothing were in front (`scan_append_separator`). A text whose separators all
stand inside quotes is not cut at all (`scan_of_isGuarded`). So the text of
a token that can come from a text is read as that token alone
(`tokenize_text`), and texts without open quotes are read one by one
(`tokenize_append_separator`). And no text has any other tokens
(`isRegular_of_mem_tokenize`).
-/

namespace TableQuery

namespace Token

variable {inside : Bool} {piece xs ys : List Char} {c : Char}

/-- The tokens that a separator is itself. -/
def symbol (c : Char) : List Token :=
  if c = ',' then [comma] else if c = '=' then [equals] else []

/-! ## One character -/

theorem isSeparator_iff :
    isSeparator c = true ↔ Text.isBlank c = true ∨ c = ',' ∨ c = '=' := by
  simp [isSeparator, or_assoc]

theorem scan_quote : scan inside piece ('\'' :: xs) = scan (!inside) ('\'' :: piece) xs := by
  simp [scan]

theorem scan_quoted (hc : c ≠ '\'') : scan true piece (c :: xs) = scan true (c :: piece) xs := by
  simp [scan, hc]

theorem scan_plain (hc : c ≠ '\'') (hsep : isSeparator c = false) :
    scan false piece (c :: xs) = scan false (c :: piece) xs := by
  simp only [isSeparator, Bool.or_eq_false_iff, beq_eq_false_iff_ne] at hsep
  simp [scan, hc, hsep]

/-- A blank is no token. -/
theorem symbol_of_isBlank (hblank : Text.isBlank c = true) : symbol c = [] := by
  have hcomma : c ≠ ',' := by rintro rfl; exact absurd hblank (by decide)
  have hequals : c ≠ '=' := by rintro rfl; exact absurd hblank (by decide)
  rw [symbol, if_neg hcomma, if_neg hequals]

/-- A separator outside quotes ends the piece in front of it. -/
theorem scan_separator (hsep : isSeparator c = true) :
    scan false piece (c :: xs) = close piece ++ (symbol c ++ scan false [] xs) := by
  rcases isSeparator_iff.1 hsep with hblank | rfl | rfl
  · have hquote : c ≠ '\'' := by rintro rfl; exact absurd hblank (by decide)
    simp [scan, symbol_of_isBlank hblank, hblank, hquote]
  · rfl
  · rfl

/-- **Induction along the scan**, with a case for each of the four things
that it does with a character. -/
theorem scan_induction {motive : Bool → List Char → List Char → Prop}
    (nil : ∀ inside piece, motive inside piece [])
    (quote : ∀ inside piece xs, motive (!inside) ('\'' :: piece) xs →
      motive inside piece ('\'' :: xs))
    (quoted : ∀ piece x xs, x ≠ '\'' → motive true (x :: piece) xs → motive true piece (x :: xs))
    (separator : ∀ piece x xs, x ≠ '\'' → isSeparator x = true → motive false [] xs →
      motive false piece (x :: xs))
    (plain : ∀ piece x xs, x ≠ '\'' → isSeparator x = false → motive false (x :: piece) xs →
      motive false piece (x :: xs))
    (inside : Bool) (piece xs : List Char) : motive inside piece xs := by
  induction xs generalizing inside piece with
  | nil => exact nil inside piece
  | cons x xs ih =>
    by_cases hquote : x = '\''
    · subst hquote
      exact quote inside piece xs (ih (!inside) ('\'' :: piece))
    cases inside with
    | true => exact quoted piece x xs hquote (ih true (x :: piece))
    | false =>
      cases hx : isSeparator x with
      | true => exact separator piece x xs hquote hx (ih false [])
      | false => exact plain piece x xs hquote hx (ih false (x :: piece))

/-! ## Open quotes -/

@[simp] theorem isOpen_nil : isOpen [] = false := rfl

theorem isOpen_quote : isOpen ('\'' :: xs) = !isOpen xs := by
  rw [Bool.eq_iff_iff]
  simp only [isOpen, List.count_cons_self, beq_iff_eq, Bool.not_eq_true', beq_eq_false_iff_ne]
  omega

theorem isOpen_cons_of_ne (hc : c ≠ '\'') : isOpen (c :: xs) = isOpen xs := by
  simp [isOpen, List.count_cons_of_ne hc]

theorem isOpen_append : isOpen (xs ++ ys) = (isOpen xs ^^ isOpen ys) := by
  induction xs with
  | nil => simp
  | cons c xs ih =>
    by_cases hc : c = '\''
    · rw [hc, List.cons_append, isOpen_quote, isOpen_quote, ih, Bool.not_xor]
    · rw [List.cons_append, isOpen_cons_of_ne hc, isOpen_cons_of_ne hc, ih]

/-- A quote behind the piece read so far opens or closes. -/
theorem not_eq_isOpen_quote (h : inside = isOpen piece.reverse) :
    (!inside) = isOpen ('\'' :: piece).reverse := by
  rw [List.reverse_cons, isOpen_append, ← h, isOpen_quote]
  simp

/-- No other character does. -/
theorem eq_isOpen_cons_of_ne (hc : c ≠ '\'') (h : inside = isOpen piece.reverse) :
    inside = isOpen (c :: piece).reverse := by
  rw [List.reverse_cons, isOpen_append, ← h, isOpen_cons_of_ne hc]
  simp

theorem isOpen_of_notMem (h : '\'' ∉ xs) : isOpen xs = false := by
  simp [isOpen, List.count_eq_zero_of_not_mem h]

/-! ## Whole texts -/

/-- **A separator outside quotes cuts the text.** The text in front may
start inside quotes and must not end there. -/
theorem scan_append_separator (hsep : isSeparator c = true)
    (hopen : (inside ^^ isOpen xs) = false) :
    scan inside piece (xs ++ c :: ys) = scan inside piece xs ++ (symbol c ++ scan false [] ys) := by
  induction inside, piece, xs using scan_induction with
  | nil inside piece =>
    obtain rfl : inside = false := by simpa using hopen
    exact scan_separator hsep
  | quote inside piece xs ih =>
    rw [isOpen_quote] at hopen
    rw [List.cons_append, scan_quote, scan_quote, ih (by simpa using hopen)]
  | quoted piece x xs hquote ih =>
    rw [isOpen_cons_of_ne hquote] at hopen
    rw [List.cons_append, scan_quoted hquote, scan_quoted hquote, ih hopen]
  | separator piece x xs hquote hx ih =>
    rw [isOpen_cons_of_ne hquote] at hopen
    simp only [List.cons_append, scan_separator hx, ih hopen, List.append_assoc]
  | plain piece x xs hquote hx ih =>
    rw [isOpen_cons_of_ne hquote] at hopen
    rw [List.cons_append, scan_plain hquote hx, scan_plain hquote hx, ih hopen]

/-- **A text whose separators all stand inside quotes is not cut.** -/
theorem scan_of_isGuarded (h : isGuarded inside xs = true) :
    scan inside piece xs = close (xs.reverse ++ piece) := by
  induction inside, piece, xs using scan_induction with
  | nil inside piece => rfl
  | quote inside piece xs ih =>
    rw [scan_quote, ih (by simpa [isGuarded] using h)]
    simp
  | quoted piece x xs hquote ih =>
    rw [scan_quoted hquote, ih (by simpa [isGuarded, hquote] using h)]
    simp
  | separator piece x xs hquote hx _ => simp [isGuarded, hquote, hx] at h
  | plain piece x xs hquote hx ih =>
    rw [scan_plain hquote hx, ih (by simpa [isGuarded, hquote, hx] using h)]
    simp

theorem isPlain_iff {s : String} :
    isPlain s = true ↔ s ≠ "" ∧ ∀ c ∈ s.toList, c ≠ '\'' ∧ isSeparator c = false := by
  simp [isPlain]

theorem isGuarded_of_forall (h : ∀ c ∈ xs, c ≠ '\'' ∧ isSeparator c = false) :
    isGuarded inside xs = true := by
  induction xs with
  | nil => rfl
  | cons c xs ih =>
    obtain ⟨hc, hxs⟩ := List.forall_mem_cons.1 h
    rw [isGuarded, if_neg hc.1, hc.2, ih hxs]
    simp

/-- Inside quotes every character up to the next quote is kept. -/
theorem isGuarded_append_quote (h : '\'' ∉ xs) :
    isGuarded true (xs ++ '\'' :: ys) = isGuarded false ys := by
  induction xs with
  | nil => simp [isGuarded]
  | cons c xs ih =>
    obtain ⟨hc, hxs⟩ := List.ne_and_not_mem_of_not_mem_cons h
    rw [List.cons_append, isGuarded, if_neg (Ne.symm hc), ih hxs]
    rfl

theorem notMem_of_isPlain {s : String} (h : isPlain s = true) : '\'' ∉ s.toList := fun hmem =>
  ((isPlain_iff.1 h).2 _ hmem).1 rfl

/-- A text that is not cut is one token, whose kind is decided by the
quotes in it. -/
theorem tokenize_of_isGuarded {s : String} (hs : s ≠ "") (h : isGuarded false s.toList = true) :
    tokenize s = [ofPiece s.toList] := by
  rw [tokenize, scan_of_isGuarded h, List.append_nil]
  cases hr : s.toList.reverse with
  | nil => exact absurd (by simpa using hr) hs
  | cons c cs => rw [close, ← hr, List.reverse_reverse]

/-- **The text of a token is read as the token.** -/
theorem tokenize_text {t : Token} (h : t.isRegular = true) : tokenize t.text = [t] := by
  cases t with
  | word s =>
    obtain ⟨hs, hplain⟩ := isPlain_iff.1 h
    rw [text, tokenize_of_isGuarded hs (isGuarded_of_forall hplain), ofPiece,
      if_neg (notMem_of_isPlain h), String.ofList_toList]
  | literal s =>
    simp only [isRegular, Bool.and_eq_true, List.contains_iff_mem] at h
    have hs : s ≠ "" := by rintro rfl; exact absurd h.1 (by simp)
    rw [text, tokenize_of_isGuarded hs h.2, ofPiece, if_pos h.1, String.ofList_toList]
  | comma => decide
  | equals => decide

variable {s t : String}

/-- **Behind a separator outside quotes a text is read on its own.** -/
theorem tokenize_append_separator (hsep : isSeparator c = true) (h : isOpen s.toList = false) :
    tokenize (s ++ String.singleton c ++ t) = tokenize s ++ (symbol c ++ tokenize t) := by
  have hlist : (s ++ String.singleton c ++ t).toList = s.toList ++ c :: t.toList := by simp
  rw [tokenize, hlist, scan_append_separator hsep (by simpa using h)]
  rfl

/-- So it is behind a space. -/
theorem tokenize_append_blank (h : isOpen s.toList = false) :
    tokenize (s ++ " " ++ t) = tokenize s ++ tokenize t := by
  have hspace : String.singleton ' ' = " " := by decide
  rw [← hspace, tokenize_append_separator (by decide) h, symbol_of_isBlank (by decide),
    List.nil_append]

/-- And behind a comma and a space. -/
theorem tokenize_append_comma (h : isOpen s.toList = false) :
    tokenize (s ++ ", " ++ t) = tokenize s ++ comma :: tokenize t := by
  have hlist : (s ++ ", " ++ t).toList = s.toList ++ ',' :: ' ' :: t.toList := by simp
  rw [tokenize, hlist, scan_append_separator (by decide) (by simpa using h),
    scan_separator (by decide)]
  rfl

/-- An equals sign needs no blank. -/
theorem tokenize_append_equals (h : isOpen s.toList = false) :
    tokenize (s ++ "=" ++ t) = tokenize s ++ equals :: tokenize t := by
  have hequals : String.singleton '=' = "=" := by decide
  rw [← hequals, tokenize_append_separator (by decide) h]
  rfl

/-! ## Texts put together -/

theorem isOpen_intercalate {sep : String} {ss : List String} (hsep : isOpen sep.toList = false)
    (hss : ∀ s ∈ ss, isOpen s.toList = false) : isOpen (sep.intercalate ss).toList = false := by
  induction ss with
  | nil => simp
  | cons s ss ih =>
    obtain ⟨hs, hss⟩ := List.forall_mem_cons.1 hss
    cases ss with
    | nil => simpa using hs
    | cons s' ss =>
      rw [String.intercalate_cons_cons]
      simp only [String.toList_append, isOpen_append, hs, hsep, ih hss]
      rfl

/-- **Texts with blanks between them are read one by one**, if none but the
last leaves a quote open. -/
theorem tokenize_intercalate_blank_of_dropLast {ss : List String}
    (h : ∀ s ∈ ss.dropLast, isOpen s.toList = false) :
    tokenize (" ".intercalate ss) = ss.flatMap tokenize := by
  induction ss with
  | nil => rfl
  | cons s ss ih =>
    cases ss with
    | nil => simp
    | cons s' ss =>
      rw [List.dropLast_cons_cons] at h
      obtain ⟨hs, hss⟩ := List.forall_mem_cons.1 h
      rw [String.intercalate_cons_cons, tokenize_append_blank hs, ih hss]
      rfl

theorem tokenize_intercalate_blank {ss : List String} (h : ∀ s ∈ ss, isOpen s.toList = false) :
    tokenize (" ".intercalate ss) = ss.flatMap tokenize :=
  tokenize_intercalate_blank_of_dropLast fun s hs => h s ((List.dropLast_sublist _).mem hs)

/-! ## The tokens of any text -/

theorem isGuarded_append :
    isGuarded inside (xs ++ ys) = (isGuarded inside xs && isGuarded (inside ^^ isOpen xs) ys) := by
  induction xs generalizing inside with
  | nil => simp [isGuarded]
  | cons c xs ih =>
    by_cases hc : c = '\''
    · subst hc
      rw [List.cons_append, isGuarded, if_pos rfl, ih, isGuarded, if_pos rfl, isOpen_quote]
      simp
    · rw [List.cons_append, isGuarded, if_neg hc, ih, isGuarded, if_neg hc, isOpen_cons_of_ne hc,
        Bool.and_assoc]

/-- Without quotes there is no place for a separator. -/
theorem forall_of_isGuarded (h : isGuarded false xs = true) (hquote : '\'' ∉ xs) :
    ∀ c ∈ xs, c ≠ '\'' ∧ isSeparator c = false := by
  induction xs with
  | nil => simp
  | cons c xs ih =>
    obtain ⟨hc, hxs⟩ := List.ne_and_not_mem_of_not_mem_cons hquote
    rw [isGuarded, if_neg (Ne.symm hc), Bool.and_eq_true, Bool.false_or, Bool.not_eq_true'] at h
    exact List.forall_mem_cons.2 ⟨⟨Ne.symm hc, h.1⟩, ih h.2 hxs⟩

theorem isRegular_ofPiece (hne : xs ≠ []) (h : isGuarded false xs = true) :
    (ofPiece xs).isRegular = true := by
  unfold ofPiece
  split
  · rename_i hquote
    simp [isRegular, hquote, h]
  · rename_i hquote
    rw [isRegular, isPlain_iff, String.toList_ofList]
    exact ⟨by simpa [← String.toList_inj] using hne, forall_of_isGuarded h hquote⟩

theorem isRegular_of_mem_close (h : isGuarded false piece.reverse = true) :
    ∀ u ∈ close piece, u.isRegular = true := by
  cases piece with
  | nil => simp [close]
  | cons c cs => simpa [close] using isRegular_ofPiece (by simp) h

theorem isRegular_of_mem_symbol : ∀ u ∈ symbol c, u.isRegular = true := by
  unfold symbol
  split
  · simp [isRegular]
  · split <;> simp [isRegular]

/-- The piece grows by what may stand where it ends. -/
theorem isGuarded_reverse_cons (hguarded : isGuarded false piece.reverse = true)
    (hinside : inside = isOpen piece.reverse) (hc : isGuarded inside [c] = true) :
    isGuarded false (c :: piece).reverse = true := by
  rw [List.reverse_cons, isGuarded_append, hguarded, Bool.false_xor, ← hinside, hc]
  rfl

/-- **Every token that the scan makes can come from a text.** The piece
read so far has its separators inside quotes, and where it leaves a quote
open the scan is inside one. -/
theorem isRegular_of_mem_scan (hguarded : isGuarded false piece.reverse = true)
    (hinside : inside = isOpen piece.reverse) :
    ∀ u ∈ scan inside piece xs, u.isRegular = true := by
  induction inside, piece, xs using scan_induction with
  | nil inside piece => exact isRegular_of_mem_close hguarded
  | quote inside piece xs ih =>
    rw [scan_quote]
    exact ih (isGuarded_reverse_cons hguarded hinside rfl) (not_eq_isOpen_quote hinside)
  | quoted piece x xs hquote ih =>
    rw [scan_quoted hquote]
    exact ih (isGuarded_reverse_cons hguarded hinside (by simp [isGuarded, hquote]))
      (eq_isOpen_cons_of_ne hquote hinside)
  | separator piece x xs _ hx ih =>
    rw [scan_separator hx]
    simp only [List.forall_mem_append]
    exact ⟨isRegular_of_mem_close hguarded, isRegular_of_mem_symbol, ih rfl rfl⟩
  | plain piece x xs hquote hx ih =>
    rw [scan_plain hquote hx]
    exact ih (isGuarded_reverse_cons hguarded hinside (by simp [isGuarded, hquote, hx]))
      (eq_isOpen_cons_of_ne hquote hinside)

theorem isRegular_of_mem_tokenize : ∀ u ∈ tokenize s, u.isRegular = true := by
  unfold tokenize
  exact isRegular_of_mem_scan rfl rfl

end Token

end TableQuery
