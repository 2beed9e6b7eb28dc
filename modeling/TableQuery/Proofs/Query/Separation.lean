import Mathlib.Data.List.Infix
import TableQuery.Proofs.Query.Regular

/-!
# Tokens — where a text is cut, and what is left out

A text is read from its front, and what has been read is known by three
things: the tokens so far, the unfinished piece and whether a quote is open
(`exists_scan_append`). Where none is open a separator cuts the text, and
where one is open the rest goes into the piece up to the next quote
(`tokenize_append`). What is read goes into a token or is a separator, and
only the blanks among the separators are left out, so the tokens put
together are the text without its blanks outside quotes
(`join_text_tokenize`).
-/

namespace TableQuery

namespace Token

variable {inside : Bool} {piece xs : List Char} {c : Char} {a b : String}

/-! ## Reading on -/

/-- **Reading goes on behind what was read.** An open quote stands in the
unfinished piece. -/
theorem exists_scan_append (inside : Bool) (piece xs : List Char)
    (hinside : inside = true → '\'' ∈ piece) :
    ∃ ts piece', ((inside ^^ isOpen xs) = true → '\'' ∈ piece') ∧
      ∀ ys, scan inside piece (xs ++ ys) = ts ++ scan (inside ^^ isOpen xs) piece' ys := by
  induction inside, piece, xs using scan_induction with
  | nil inside piece =>
    refine ⟨[], piece, ?_, fun ys => ?_⟩
    · simpa using hinside
    · simp
  | quote inside piece xs ih =>
    have hopen : (inside ^^ isOpen ('\'' :: xs)) = ((!inside) ^^ isOpen xs) := by
      rw [isOpen_quote]
      simp
    obtain ⟨ts, piece', hpiece, hscan⟩ := ih fun _ => List.mem_cons_self
    rw [hopen]
    refine ⟨ts, piece', hpiece, fun ys => ?_⟩
    rw [List.cons_append, scan_quote, hscan]
  | quoted piece x xs hquote ih =>
    obtain ⟨ts, piece', hpiece, hscan⟩ := ih fun h => List.mem_cons_of_mem x (hinside h)
    rw [isOpen_cons_of_ne hquote]
    refine ⟨ts, piece', hpiece, fun ys => ?_⟩
    rw [List.cons_append, scan_quoted hquote, hscan]
  | separator piece x xs hquote hx ih =>
    obtain ⟨ts, piece', hpiece, hscan⟩ := ih nofun
    rw [isOpen_cons_of_ne hquote]
    -- the tokens of the piece and of the separator are done with
    refine ⟨close piece ++ (symbol x ++ ts), piece', hpiece, fun ys => ?_⟩
    rw [List.cons_append, scan_separator hx, hscan, List.append_assoc, List.append_assoc]
  | plain piece x xs hquote hx ih =>
    obtain ⟨ts, piece', hpiece, hscan⟩ := ih nofun
    rw [isOpen_cons_of_ne hquote]
    refine ⟨ts, piece', hpiece, fun ys => ?_⟩
    rw [List.cons_append, scan_plain hquote hx, hscan]

theorem close_of_quote_mem (h : '\'' ∈ piece) :
    close piece = [.literal (String.ofList piece.reverse)] := by
  cases piece with
  | nil => cases h
  | cons c cs => rw [close, ofPiece, if_pos (List.mem_reverse.2 h)]

/-- Inside quotes a text without quotes goes into the piece. -/
theorem scan_of_notMem (h : '\'' ∉ xs) : scan true piece xs = close (xs.reverse ++ piece) := by
  refine scan_of_isGuarded (isGuarded_iff.2 fun front x back hxs _ => ?_)
  have hfront : '\'' ∉ front := fun hmem => h (hxs ▸ List.mem_append_left _ hmem)
  rw [isOpen_of_notMem hfront]
  rfl

/-- **An open quote takes in what follows**, up to the next quote. -/
theorem tokenize_append_of_isOpen (h : isOpen a.toList = true) (hb : '\'' ∉ b.toList) :
    ∃ ts quoted, tokenize a = ts ++ [.literal quoted] ∧
      tokenize (a ++ b) = ts ++ [.literal (quoted ++ b)] := by
  obtain ⟨ts, piece, hpiece, hscan⟩ := exists_scan_append false [] a.toList nofun
  rw [h] at hpiece hscan
  have hquote : '\'' ∈ piece := hpiece rfl
  -- where nothing follows, the piece is closed as it is
  have hfront : tokenize a = ts ++ close piece := by
    have hnil := hscan []
    rwa [List.append_nil] at hnil
  have hwhole : tokenize (a ++ b) = ts ++ close (b.toList.reverse ++ piece) := by
    have hrest := hscan b.toList
    rwa [← String.toList_append, Bool.false_xor, scan_of_notMem hb] at hrest
  refine ⟨ts, String.ofList piece.reverse, ?_, ?_⟩
  · rw [hfront, close_of_quote_mem hquote]
  · rw [hwhole, close_of_quote_mem (List.mem_append_right _ hquote), List.reverse_append,
      List.reverse_reverse, String.ofList_append, String.ofList_toList]

/-- **What a text is cut at.** A separator outside quotes cuts it, and what
stands behind is read as if nothing were in front. Behind an open quote
nothing cuts it, and a text without quotes is added to the last token. -/
theorem tokenize_append (a b : String) :
    (isOpen a.toList = false →
      (∀ c, Text.isBlank c = true →
        tokenize (a ++ String.singleton c ++ b) = tokenize a ++ tokenize b) ∧
      tokenize (a ++ "," ++ b) = tokenize a ++ [comma] ++ tokenize b ∧
      tokenize (a ++ "=" ++ b) = tokenize a ++ [equals] ++ tokenize b) ∧
    (isOpen a.toList = true → '\'' ∉ b.toList →
      ∃ ts quoted, tokenize a = ts ++ [.literal quoted] ∧
        tokenize (a ++ b) = ts ++ [.literal (quoted ++ b)]) := by
  refine ⟨fun h => ⟨fun c hblank => ?_, ?_, ?_⟩, tokenize_append_of_isOpen⟩
  · have hsep : isSeparator c = true := isSeparator_iff.2 (.inl hblank)
    rw [tokenize_append_separator hsep h, symbol_of_isBlank hblank, List.nil_append]
  · have hcomma : String.singleton ',' = "," := by decide
    rw [List.append_assoc, ← hcomma, tokenize_append_separator (by decide) h]
    rfl
  · rw [List.append_assoc, tokenize_append_equals h]
    rfl

/-- A tab behind a closed quote, and a comma behind one that is open. -/
theorem tokenize_append_quotes :
    (isOpen "a 'b'".toList = false ∧ Text.isBlank '\t' = true ∧
      tokenize ("a 'b'" ++ String.singleton '\t' ++ "c") = tokenize "a 'b'" ++ tokenize "c") ∧
    (isOpen "a 'b".toList = true ∧ '\'' ∉ ", c".toList ∧
      ∃ ts quoted, tokenize "a 'b" = ts ++ [.literal quoted] ∧
        tokenize ("a 'b" ++ ", c") = ts ++ [.literal (quoted ++ ", c")]) := by
  have hclosed : isOpen "a 'b'".toList = false := by decide
  have hblank : Text.isBlank '\t' = true := by decide
  have hopen : isOpen "a 'b".toList = true := by decide
  have hquote : '\'' ∉ ", c".toList := by decide
  exact ⟨⟨hclosed, hblank, ((tokenize_append "a 'b'" "c").1 hclosed).1 '\t' hblank⟩,
    hopen, hquote, (tokenize_append "a 'b" ", c").2 hopen hquote⟩

/-! ## What is left out -/

/-- The characters of a text but the blanks outside quotes. Every character
is looked at with the text in front of it, and `inside` says whether a quote
is open in front of the whole. -/
def kept (inside : Bool) (cs : List Char) : List Char :=
  ((cs.inits.zip cs).filter fun p => !Text.isBlank p.2 || (inside ^^ isOpen p.1)).map Prod.snd

theorem kept_cons : kept inside (c :: xs) =
    (if Text.isBlank c && !inside then [] else [c]) ++ kept (inside ^^ isOpen [c]) xs := by
  have hopen (p : List Char × Char) :
      (inside ^^ isOpen (c :: p.1)) = ((inside ^^ isOpen [c]) ^^ isOpen p.1) := by
    rw [← List.singleton_append, isOpen_append, Bool.xor_assoc]
  -- all the others have the character in front of them
  have hrest : (((xs.inits.map (c :: ·)).zip xs).filter fun p =>
        !Text.isBlank p.2 || (inside ^^ isOpen p.1)).map Prod.snd =
      kept (inside ^^ isOpen [c]) xs := by
    rw [List.zip_map_left, List.filter_map, List.map_map, kept]
    refine congrArg _ (List.filter_congr fun p _ => ?_)
    rw [← hopen]
    rfl
  have hfirst : (!Text.isBlank c || (inside ^^ isOpen [])) = !(Text.isBlank c && !inside) := by
    simp
  rw [kept, List.inits_cons, List.zip_cons_cons, List.filter_cons, ← hrest]
  simp only [hfirst]
  cases Text.isBlank c && !inside with
  | true => rfl
  | false => rfl

theorem flatMap_text_close : (close piece).flatMap (fun t => t.text.toList) = piece.reverse := by
  cases piece with
  | nil => rfl
  | cons c cs => rw [close, List.flatMap_singleton, text_ofPiece, String.toList_ofList]

/-- A separator is its own text, unless it is blank. -/
theorem flatMap_text_symbol (hsep : isSeparator c = true) :
    (symbol c).flatMap (fun t => t.text.toList) = if Text.isBlank c then [] else [c] := by
  rcases isSeparator_iff.1 hsep with hblank | rfl | rfl
  · rw [symbol_of_isBlank hblank, if_pos hblank, List.flatMap_nil]
  · decide
  · decide

/-- **What is read is kept**, the piece read so far as a whole. -/
theorem flatMap_text_scan :
    (scan inside piece xs).flatMap (fun t => t.text.toList) = piece.reverse ++ kept inside xs := by
  induction inside, piece, xs using scan_induction with
  | nil inside piece =>
    have hnil : kept inside [] = [] := rfl
    rw [scan, flatMap_text_close, hnil, List.append_nil]
  | quote inside piece xs ih =>
    have hopen : (inside ^^ isOpen ['\'']) = !inside := by cases inside <;> rfl
    have hblank : Text.isBlank '\'' = false := by decide
    rw [scan_quote, ih, kept_cons, hopen, hblank]
    simp
  | quoted piece x xs hquote ih =>
    rw [scan_quoted hquote, ih, kept_cons, isOpen_cons_of_ne hquote]
    simp
  | separator piece x xs hquote hx ih =>
    rw [scan_separator hx, List.flatMap_append, List.flatMap_append, flatMap_text_close,
      flatMap_text_symbol hx, ih, kept_cons, isOpen_cons_of_ne hquote]
    simp
  | plain piece x xs hquote hx ih =>
    have hblank : Text.isBlank x = false := by
      simp only [isSeparator, Bool.or_eq_false_iff] at hx
      exact hx.1.1
    rw [scan_plain hquote hx, ih, kept_cons, isOpen_cons_of_ne hquote, hblank]
    simp

/-- **Nothing is lost but blanks outside quotes**: the tokens put together
are the text without the blanks that an even number of quotes stands in
front of. -/
theorem join_text_tokenize (s : String) :
    String.join ((tokenize s).map text) = String.ofList (kept false s.toList) := by
  have hscan : (tokenize s).flatMap (fun t => t.text.toList) = kept false s.toList :=
    flatMap_text_scan
  rw [← String.toList_inj, String.toList_join, List.flatMap_map, String.toList_ofList, hscan]

/-- A quote that is left open keeps the blanks behind it. -/
example : kept false " a 'b c' = 'd e".toList = "a'b c'='d e".toList := by decide

end Token

end TableQuery
