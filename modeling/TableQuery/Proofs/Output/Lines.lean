import TableQuery.Output.Result
import TableQuery.Proofs.Output.Rows
import TableQuery.Settings.Load

/-!
# Lines — plain text split back

A separator that does not overlap itself stands in a line only where it was
put, if no cell contains it: a copy that began in a cell would either end
there or reach into the separator behind it, and so overlap that one
(`not_prefix_of_suffix`). So a line is cut into its cells
(`cut_intercalate`), and plain text into its lines and these into their
cells (`linesOf_of_run`).
-/

namespace TableQuery

namespace Text

/-! ## Cutting

A piece is cut off where its separator stands, if no copy of the separator
begins earlier (`cutFrom_append`), and what holds no copy is a piece by
itself (`cutFrom_of_not_infix`). For lines this needs no more than that they
hold no line break (`cut_lines`). -/

variable {separator piece cell rest : List Char} {lines : List (List Char)}

/-- **A text is cut behind a cell** that no copy of the separator begins in.
Such a copy need not end in the cell: it may reach into the separator
behind it. -/
theorem cutFrom_append (hne : separator ≠ [])
    (h : ∀ back, back ≠ [] → back <:+ cell → ¬ separator <+: back ++ (separator ++ rest)) :
    cutFrom separator piece (cell ++ (separator ++ rest)) =
      (piece.reverse ++ cell) :: cutFrom separator [] rest := by
  induction cell generalizing piece with
  | nil =>
    obtain ⟨c, tail, rfl⟩ := List.exists_cons_of_ne_nil hne
    have hcopy : (c :: tail).isPrefixOf (c :: (tail ++ rest)) = true :=
      List.isPrefixOf_iff_prefix.2 (List.prefix_append (c :: tail) rest)
    rw [List.nil_append, List.cons_append, cutFrom, if_pos ⟨hne, hcopy⟩]
    simp
  | cons c cell ih =>
    have hcopy : ¬ separator.isPrefixOf (c :: (cell ++ (separator ++ rest))) = true := fun hcopy =>
      h (c :: cell) (by simp) (List.suffix_refl _) (List.isPrefixOf_iff_prefix.1 hcopy)
    have hrest : cutFrom separator (c :: piece) (cell ++ (separator ++ rest)) =
        ((c :: piece).reverse ++ cell) :: cutFrom separator [] rest :=
      ih fun back hback hwithin => h back hback (hwithin.trans (List.suffix_cons c cell))
    rw [List.cons_append, cutFrom, if_neg fun h => hcopy h.2, hrest]
    simp

/-- A text without a copy of the separator is one piece. -/
theorem cutFrom_of_not_infix (h : ¬ separator <:+: cell) :
    cutFrom separator piece cell = [piece.reverse ++ cell] := by
  induction cell generalizing piece with
  | nil => simp [cutFrom]
  | cons c cell ih =>
    have hcopy : ¬ separator.isPrefixOf (c :: cell) = true := fun hcopy =>
      h (List.isPrefixOf_iff_prefix.1 hcopy).isInfix
    have hrest : ¬ separator <:+: cell := fun hinfix => h (List.infix_cons hinfix)
    rw [cutFrom, if_neg fun h => hcopy h.2, ih hrest]
    simp

/-! ### Lines -/

/-- **Lines are cut at their ends**, and nothing stands behind the last. -/
theorem cut_lines (h : ∀ line ∈ lines, '\n' ∉ line) :
    cut ['\n'] (lines.flatMap (· ++ ['\n'])) = lines ++ [[]] := by
  rw [cut]
  induction lines with
  | nil => simp [cutFrom]
  | cons line lines ih =>
    obtain ⟨hline, hlines⟩ := List.forall_mem_cons.1 h
    -- a line break that begins in the line would be one of its characters
    have hearly : ∀ back, back ≠ [] → back <:+ line →
        ¬ ['\n'] <+: back ++ (['\n'] ++ lines.flatMap (· ++ ['\n'])) := by
      intro back hback hwithin hcopy
      obtain ⟨c, back, rfl⟩ := List.exists_cons_of_ne_nil hback
      have hc : '\n' = c := by simpa using hcopy
      exact hline (hwithin.mem (hc ▸ List.mem_cons_self))
    rw [List.flatMap_cons, List.append_assoc, cutFrom_append (by simp) hearly, ih hlines]
    rfl

/-- As many line breaks as lines. -/
theorem count_lines (h : ∀ line ∈ lines, '\n' ∉ line) :
    (lines.flatMap (· ++ ['\n'])).count '\n' = lines.length := by
  induction lines with
  | nil => rfl
  | cons line lines ih =>
    obtain ⟨hline, hlines⟩ := List.forall_mem_cons.1 h
    rw [List.flatMap_cons, List.count_append, List.count_append, ih hlines,
      List.count_eq_zero_of_not_mem hline, List.length_cons, List.count_singleton_self]
    omega

end Text

namespace Output

variable {separator cell back rest : List Char} {cells : List (List Char)}

/-! ## Separators -/

/-- A text overlaps itself if it goes on with its own beginning behind some
place in it. -/
theorem overlapsItself_iff :
    OverlapsItself separator ↔ ∃ k < separator.length, 0 < k ∧ separator.drop k <+: separator := by
  constructor
  · rintro ⟨front, back, middle, hfront, hback, hbegins, hends⟩
    have hdrop : separator.drop back.length = front := by rw [hends, List.drop_left]
    have hlength : separator.length = back.length + front.length := by
      rw [hends, List.length_append]
    have hpos := List.length_pos_iff.2 hfront
    refine ⟨back.length, by omega, List.length_pos_iff.2 hback, ?_⟩
    rw [hdrop]
    exact ⟨middle, hbegins.symm⟩
  · rintro ⟨k, hlt, hpos, middle, hbegins⟩
    have hfront : separator.drop k ≠ [] := by simpa using hlt
    have hback : separator.take k ≠ [] := by
      rw [← List.length_pos_iff, List.length_take]
      omega
    exact ⟨separator.drop k, separator.take k, middle, hfront, hback, hbegins.symm,
      (List.take_append_drop k separator).symm⟩

instance : Decidable (OverlapsItself separator) :=
  decidable_of_iff _ overlapsItself_iff.symm

/-- **No copy of the separator begins in a cell** that does not contain it,
not even one that ends in the separator behind the cell. -/
theorem not_prefix_of_suffix (hoverlap : ¬ OverlapsItself separator)
    (hcell : ¬ separator <:+: cell) (hback : back ≠ []) (hwithin : back <:+ cell) :
    ¬ separator <+: back ++ (separator ++ rest) := by
  intro hcopy
  rcases Nat.lt_or_ge back.length separator.length with hlt | hge
  · -- the copy goes on behind the cell with the beginning of the separator there
    have hbegins : back <+: separator :=
      List.prefix_of_prefix_length_le (List.prefix_append back _) hcopy (by omega)
    obtain ⟨front, hends⟩ := hbegins
    have hfront : front ≠ [] := by
      rintro rfl
      rw [List.append_nil] at hends
      exact absurd (congrArg List.length hends) (by omega)
    have hbehind : front <+: separator ++ rest := by
      have hcopied : back ++ front <+: back ++ (separator ++ rest) := hends ▸ hcopy
      exact (List.prefix_append_right_inj back).1 hcopied
    have hlength : front.length ≤ separator.length := by
      rw [← hends, List.length_append]
      omega
    obtain ⟨middle, hmiddle⟩ :=
      List.prefix_of_prefix_length_le hbehind (List.prefix_append separator rest) hlength
    exact hoverlap ⟨front, back, middle, hfront, hback, hmiddle.symm, hends.symm⟩
  · -- the copy ends in the cell
    have hcopied : separator <+: back :=
      List.prefix_of_prefix_length_le hcopy (List.prefix_append back _) hge
    exact hcell (hcopied.isInfix.trans hwithin.isInfix)

/-! ## Lines -/

/-- **A line is cut into its cells.** -/
theorem cut_intercalate (hne : separator ≠ []) (hoverlap : ¬ OverlapsItself separator)
    (hcells : cells ≠ []) (h : ∀ cell ∈ cells, ¬ separator <:+: cell) :
    Text.cut separator (separator.intercalate cells) = cells := by
  rw [Text.cut]
  induction cells with
  | nil => exact absurd rfl hcells
  | cons cell cells ih =>
    obtain ⟨hcell, hrest⟩ := List.forall_mem_cons.1 h
    cases cells with
    | nil =>
      rw [List.intercalate_singleton, Text.cutFrom_of_not_infix hcell]
      rfl
    | cons next cells =>
      rw [List.intercalate_cons_cons, List.append_assoc,
        Text.cutFrom_append hne fun back hback hwithin =>
          not_prefix_of_suffix hoverlap hcell hback hwithin,
        ih (List.cons_ne_nil next cells) hrest]
      rfl

variable {r : ResultSet} {line : List String} {c : Char}

theorem cellsOf_line {separator : String} (hne : separator ≠ "")
    (hoverlap : ¬ OverlapsItself separator.toList) (hline : line ≠ [])
    (h : ∀ cell ∈ line, ¬ separator.toList <:+: cell.toList) :
    cellsOf separator (separator.intercalate line).toList = line := by
  have hcut : Text.cut separator.toList (separator.toList.intercalate (line.map String.toList)) =
      line.map String.toList :=
    cut_intercalate (mt String.toList_eq_nil_iff.1 hne) hoverlap (mt List.map_eq_nil_iff.1 hline)
      (List.forall_mem_map.2 h)
  rw [cellsOf, String.toList_intercalate, hcut, List.map_map]
  simp

/-- A character of a line is one of the separator or of a cell. -/
theorem notMem_intercalate {separator : String} (hseparator : c ∉ separator.toList)
    (h : ∀ cell ∈ line, c ∉ cell.toList) : c ∉ (separator.intercalate line).toList := by
  induction line with
  | nil => simp
  | cons cell line ih =>
    obtain ⟨hcell, hrest⟩ := List.forall_mem_cons.1 h
    cases line with
    | nil => simpa using hcell
    | cons next line =>
      rw [String.toList_intercalate] at ih ⊢
      simp only [List.map_cons, List.intercalate_cons_cons, List.mem_append, not_or]
      exact ⟨⟨hcell, hseparator⟩, ih hrest⟩

/-- Plain text is its lines, each with its end. -/
theorem toList_lines (separator : String) (r : ResultSet) :
    (String.join (r.lines.map (textLine separator))).toList =
      (r.lines.map fun line => (separator.intercalate line).toList).flatMap (· ++ ['\n']) := by
  rw [String.toList_join, List.flatMap_map, List.flatMap_map]
  simp only [textLine, String.toList_append]
  rfl

/-- **Plain text can be split back** into the columns and the rows: into
its lines at the line breaks, behind the last of which nothing stands, and
each line into its cells at the separator. -/
theorem linesOf_of_run {separator : String} (hcolumns : r.columns ≠ [])
    (hwidth : ∀ row ∈ r.rows, row.length = r.columns.length) (hne : separator ≠ "")
    (hbreak : '\n' ∉ separator.toList) (hoverlap : ¬ OverlapsItself separator.toList)
    (hcells : ∀ line ∈ r.lines, ∀ cell ∈ line,
      '\n' ∉ cell.toList ∧ ¬ separator.toList <:+: cell.toList) :
    ∃ text, (resultScript .text separator r).run {} = ({ accepted := Text.bytes text }, .ok ()) ∧
      linesOf separator text = r.columns :: r.rows ∧
      (Text.cut ['\n'] text.toList).getLast? = some [] := by
  have hlines : ∀ line ∈ r.lines, line ≠ [] := by
    refine List.forall_mem_cons.2 ⟨hcolumns, fun row hrow => ?_⟩
    rw [← List.length_pos_iff, hwidth row hrow]
    exact List.length_pos_iff.2 hcolumns
  have hbreaks : ∀ line ∈ r.lines.map fun line => (separator.intercalate line).toList,
      '\n' ∉ line :=
    List.forall_mem_map.2 fun line hline =>
      notMem_intercalate hbreak fun cell hcell => (hcells line hline cell hcell).1
  have hcut : Text.cut ['\n'] (String.join (r.lines.map (textLine separator))).toList =
      (r.lines.map fun line => (separator.intercalate line).toList) ++ [[]] := by
    rw [toList_lines, Text.cut_lines hbreaks]
  refine ⟨String.join (r.lines.map (textLine separator)), ?_, ?_, ?_⟩
  · have hbytes : (resultScript .text separator r).bytes = rendering .text separator r :=
      textScript_bytes separator r
    have hfits : Sink.fits {} (resultScript .text separator r).bytes = true := rfl
    rw [Script.run_of_fits hfits, Sink.put, hbytes]
    rfl
  · have hcellsOf : ∀ line ∈ r.lines,
        cellsOf separator (separator.intercalate line).toList = line := fun line hline =>
      cellsOf_line hne hoverlap (hlines line hline) fun cell hcell =>
        (hcells line hline cell hcell).2
    rw [linesOf, hcut, List.dropLast_concat, List.map_map]
    exact (List.map_congr_left hcellsOf).trans (List.map_id' r.lines)
  · rw [hcut, List.getLast?_concat]

/-- Cells that end or begin with parts of the separator that is there if
nothing else is said, and a column of empty cells. -/
theorem linesOf_of_run_default :
    ¬ OverlapsItself ({} : OutputSettings).separator.toList ∧
    (∃ text, (resultScript .text ({} : OutputSettings).separator
        ⟨["NAME", "NOTE"], [["Bob,", " x"], ["", ","], [" ", ""]]⟩).run {} =
          ({ accepted := Text.bytes text }, .ok ()) ∧
      linesOf ({} : OutputSettings).separator text =
        [["NAME", "NOTE"], ["Bob,", " x"], ["", ","], [" ", ""]] ∧
      (Text.cut ['\n'] text.toList).getLast? = some []) ∧
    ∃ text, (resultScript .text ({} : OutputSettings).separator ⟨["A"], [[""], [""]]⟩).run {} =
          ({ accepted := Text.bytes text }, .ok ()) ∧
      linesOf ({} : OutputSettings).separator text = [["A"], [""], [""]] ∧
      (Text.cut ['\n'] text.toList).getLast? = some [] := by
  have hoverlap : ¬ OverlapsItself ({} : OutputSettings).separator.toList := by decide
  exact ⟨hoverlap,
    linesOf_of_run (by decide) (by decide) (by decide) (by decide) hoverlap (by decide),
    linesOf_of_run (by decide) (by decide) (by decide) (by decide) hoverlap (by decide)⟩

end Output

end TableQuery
