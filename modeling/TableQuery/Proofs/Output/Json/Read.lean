import Mathlib.Data.List.DropRight
import TableQuery.Output.Json

/-!
# JSON — reading by the grammar

The reader takes a value off the front of a text. A text that spells a value
is taken in full, whatever stands behind it (`takes_of_spells`), except that
the blanks behind a value are left for the symbol that follows them. What is
taken spells the value (`Sound`). So the texts that are read as a value are
those that spell it (`read_eq_some_iff`).
-/

namespace TableQuery

namespace Json

variable {n : Nat} {p : Part} {c : Char} {s cs ds ws rest tail : List Char}
variable {v : Json} {vs : List Json} {f : String × Json} {fs : List (String × Json)}

/-! ## Blanks -/

theorem isBlank_iff : isBlank c = true ↔ c ∈ [' ', '\t', '\n', '\r'] := by
  simp [isBlank, or_assoc]

theorem exists_skip (cs : List Char) : ∃ ws, AreBlanks ws ∧ cs = ws ++ skip cs := by
  refine ⟨cs.takeWhile isBlank, fun c hc => ?_, List.takeWhile_append_dropWhile.symm⟩
  exact isBlank_iff.1 (List.mem_takeWhile_imp hc)

theorem skip_skip (cs : List Char) : skip (skip cs) = skip cs :=
  List.dropWhile_idempotent _ _

theorem skip_append (hws : AreBlanks ws) : skip (ws ++ cs) = skip cs :=
  List.dropWhile_append_of_pos fun c hc => isBlank_iff.2 (hws c hc)

theorem skip_cons (hc : isBlank c = false) : skip (c :: cs) = c :: cs := by
  rw [skip, List.dropWhile_cons_of_neg (by simp [hc])]

theorem skip_append_cons (hws : AreBlanks ws) (hc : isBlank c = false) :
    skip (ws ++ c :: cs) = c :: cs := by
  rw [skip_append hws, skip_cons hc]

theorem AreBlanks.append (hws : AreBlanks ws) (hds : AreBlanks ds) : AreBlanks (ws ++ ds) :=
  List.forall_mem_append.2 ⟨hws, hds⟩

/-- Blanks may be added behind an element. -/
theorem Spells.element_append (h : Spells (.element v) cs) (hws : AreBlanks ws) :
    Spells (.element v) (cs ++ ws) := by
  cases h with
  | element hfront hvalue hback =>
    rw [List.append_assoc]
    exact .element hfront hvalue (hback.append hws)

theorem Spells.field_append (h : Spells (.field f) cs) (hws : AreBlanks ws) :
    Spells (.field f) (cs ++ ws) := by
  cases h with
  | field hfront hname hback hvalue =>
    rw [List.append_assoc, List.cons_append]
    exact .field hfront hname hback (hvalue.element_append hws)

/-! ## Blanks in front of what is read -/

theorem readValue_congr (h : skip cs = skip ds) : readValue n cs = readValue n ds := by
  cases n with
  | zero => rw [readValue, readValue]
  | succ n => rw [readValue, readValue, h]

theorem readItems_congr (h : skip cs = skip ds) : readItems n cs = readItems n ds := by
  cases n with
  | zero => rw [readItems, readItems]
  | succ n => rw [readItems, readItems, readValue_congr h]

theorem readField_congr (h : skip cs = skip ds) : readField n cs = readField n ds := by
  cases n with
  | zero => rw [readField, readField]
  | succ n => rw [readField, readField, h]

theorem readFields_congr (h : skip cs = skip ds) : readFields n cs = readFields n ds := by
  cases n with
  | zero => rw [readFields, readFields]
  | succ n => rw [readFields, readFields, readField_congr h]

/-! ## Texts -/

theorem readText_plain (hc : 0x20 ≤ c.toNat) (hquote : c ≠ '"') (hslash : c ≠ '\\') :
    readText (c :: cs) = (readText cs).map fun r => (c :: r.1, r.2) := by
  rw [readText]
  · rw [if_neg (by simp [hslash]; omega)]
    cases readText cs <;> rfl
  · exact hquote
  · rintro _ _ _ _ _ rfl
    exact absurd rfl hslash
  · rintro _ _ rfl
    exact absurd rfl hslash

theorem escaped?_eq_some_iff {x : Char} : escaped? x = some c ↔ (x, c) ∈ letterEscapes := by
  unfold escaped? letterEscapes
  split <;> simp_all [eq_comm]

theorem codePoint?_eq_some_iff {w x y z : Char} :
    codePoint? w x y z = some c ↔ ∃ i j k l,
      Text.hexValue? w = some i ∧ Text.hexValue? x = some j ∧ Text.hexValue? y = some k ∧
        Text.hexValue? z = some l ∧ c.toNat = ((i * 16 + j) * 16 + k) * 16 + l := by
  have hchar (n : Nat) : (if n.isValidChar then some (Char.ofNat n) else none) = some c ↔
      c.toNat = n := by
    constructor
    · intro h
      split at h
      · rename_i hvalid
        cases h
        rw [Char.ofNat, dif_pos hvalid]
        rfl
      · cases h
    · rintro rfl
      have hvalid : c.toNat.isValidChar := c.valid
      rw [if_pos hvalid, Char.ofNat_toNat]
  simp only [codePoint?, Option.bind_eq_bind, Option.bind_eq_some_iff, hchar]
  constructor
  · rintro ⟨i, hi, j, hj, k, hk, l, hl, hn⟩
    exact ⟨i, j, k, l, hi, hj, hk, hl, hn⟩
  · rintro ⟨i, j, k, l, hi, hj, hk, hl, hn⟩
    exact ⟨i, hi, j, hj, k, hk, l, hl, hn⟩

theorem readText_letter {x : Char} (hx : escaped? x = some c) :
    readText ('\\' :: x :: cs) = (readText cs).map fun r => (c :: r.1, r.2) := by
  have hne : x ≠ 'u' := by
    rintro rfl
    cases hx
  rw [readText, hx]
  · cases readText cs <;> rfl
  · rintro _ _ _ _ _ rfl
    exact absurd rfl hne

theorem readText_digits {w x y z : Char} (h : codePoint? w x y z = some c) :
    readText ('\\' :: 'u' :: w :: x :: y :: z :: cs) =
      (readText cs).map fun r => (c :: r.1, r.2) := by
  rw [readText, h]
  cases readText cs <;> rfl

theorem readText_append (h : SpellsChar c ds) :
    readText (ds ++ cs) = (readText cs).map fun r => (c :: r.1, r.2) := by
  cases h with
  | plain hc hquote hslash => exact readText_plain hc hquote hslash
  | letter hx => exact readText_letter (escaped?_eq_some_iff.2 hx)
  | digits hw hx hy hz hc =>
    exact readText_digits (codePoint?_eq_some_iff.2 ⟨_, _, _, _, hw, hx, hy, hz, hc⟩)

/-- A text is read up to its closing quote. -/
theorem readText_of_spells (h : SpellsText s cs) :
    readText (cs ++ '"' :: tail) = some (s, tail) := by
  induction h with
  | nil => rw [List.nil_append, readText]
  | cons hchar _ ih => rw [List.append_assoc, readText_append hchar, ih, Option.map_some]

theorem spells_of_readText (h : readText cs = some (s, rest)) :
    ∃ front, cs = front ++ '"' :: rest ∧ SpellsText s front := by
  fun_induction readText cs generalizing s rest with
  | case1 => cases h
  | case2 cs =>
    cases h
    exact ⟨[], rfl, .nil⟩
  | case3 w x y z cs ih =>
    obtain ⟨e, hcode, h⟩ := Option.bind_eq_some_iff.1 h
    obtain ⟨r, hread, h⟩ := Option.bind_eq_some_iff.1 h
    cases h
    obtain ⟨front, rfl, hfront⟩ := ih hread
    obtain ⟨i, j, k, l, hw, hx, hy, hz, he⟩ := codePoint?_eq_some_iff.1 hcode
    exact ⟨_, by simp, .cons (.digits hw hx hy hz he) hfront⟩
  | case4 c cs _ ih =>
    obtain ⟨e, hletter, h⟩ := Option.bind_eq_some_iff.1 h
    obtain ⟨r, hread, h⟩ := Option.bind_eq_some_iff.1 h
    cases h
    obtain ⟨front, rfl, hfront⟩ := ih hread
    exact ⟨_, by simp, .cons (.letter (escaped?_eq_some_iff.1 hletter)) hfront⟩
  | case5 => cases h
  | case6 c cs hquote _ _ hplain ih =>
    obtain ⟨r, hread, h⟩ := Option.bind_eq_some_iff.1 h
    cases h
    obtain ⟨front, rfl, hfront⟩ := ih hread
    rw [not_or, Nat.not_lt] at hplain
    exact ⟨_, by simp, .cons (.plain hplain.2 hquote hplain.1) hfront⟩

/-! ## The steps of the reader -/

theorem readValue_text {s : String} (h : readText cs = some (s.toList, rest)) :
    readValue (n + 1) ('"' :: cs) = some (.text s, rest) := by
  rw [readValue, skip_cons (by decide)]
  simp [h]

theorem readValue_emptyList (h : skip cs = ']' :: rest) :
    readValue (n + 1) ('[' :: cs) = some (.list [], rest) := by
  rw [readValue, skip_cons (by decide)]
  simp [h]

theorem readValue_list (hopen : ∀ ds, skip cs ≠ ']' :: ds)
    (h : readItems n cs = some (vs, rest)) :
    readValue (n + 1) ('[' :: cs) = some (.list vs, rest) := by
  rw [readValue, skip_cons (by decide)]
  simp [readItems_congr (skip_skip cs), h]

theorem readValue_emptyRecord (h : skip cs = '\x7d' :: rest) :
    readValue (n + 1) ('\x7b' :: cs) = some (.record [], rest) := by
  rw [readValue, skip_cons (by decide)]
  simp [h]

theorem readValue_record (hopen : ∀ ds, skip cs ≠ '\x7d' :: ds)
    (h : readFields n cs = some (fs, rest)) :
    readValue (n + 1) ('\x7b' :: cs) = some (.record fs, rest) := by
  rw [readValue, skip_cons (by decide)]
  simp [readFields_congr (skip_skip cs), h]

theorem readItems_last (h : readValue n cs = some (v, rest)) (hrest : skip rest = ']' :: tail) :
    readItems (n + 1) cs = some ([v], tail) := by
  rw [readItems, h]
  simp [hrest]

theorem readItems_cons (h : readValue n cs = some (v, rest)) (hrest : skip rest = ',' :: ds)
    (hvs : readItems n ds = some (vs, tail)) : readItems (n + 1) cs = some (v :: vs, tail) := by
  rw [readItems, h]
  simp [hrest, hvs]

theorem readField_cons {name : String} (hcs : skip cs = '"' :: ds)
    (hname : readText ds = some (name.toList, rest)) (hrest : skip rest = ':' :: tail)
    (hvalue : readValue n tail = some (v, ws)) : readField (n + 1) cs = some ((name, v), ws) := by
  rw [readField, hcs]
  simp [hname, hrest, hvalue]

theorem readFields_last (h : readField n cs = some (f, rest)) (hrest : skip rest = '\x7d' :: tail) :
    readFields (n + 1) cs = some ([f], tail) := by
  rw [readFields, h]
  simp [hrest]

theorem readFields_cons (h : readField n cs = some (f, rest)) (hrest : skip rest = ',' :: ds)
    (hfs : readFields n ds = some (fs, tail)) : readFields (n + 1) cs = some (f :: fs, tail) := by
  rw [readFields, h]
  simp [hrest, hfs]

/-! ## What is taken -/

/-- A list does not end where its first element starts. -/
theorem Spells.skip_ne_bracket (h : Spells (.elements vs) cs) :
    skip (cs ++ tail) ≠ ']' :: ds := by
  have hvalue {v : Json} {cs tail : List Char} (h : Spells (.element v) cs) :
      skip (cs ++ tail) ≠ ']' :: ds := by
    cases h with
    | element hws hvalue =>
      rw [List.append_assoc, List.append_assoc, skip_append hws]
      cases hvalue <;> simp [skip_cons, isBlank]
  cases h with
  | lastElement helement => exact hvalue helement
  | consElement helement =>
    rw [List.append_assoc]
    exact hvalue helement

theorem Spells.skip_ne_brace (h : Spells (.fields fs) cs) :
    skip (cs ++ tail) ≠ '\x7d' :: ds := by
  have hfield {f : String × Json} {cs tail : List Char} (h : Spells (.field f) cs) :
      skip (cs ++ tail) ≠ '\x7d' :: ds := by
    cases h with
    | field hws =>
      simp only [List.append_assoc]
      rw [skip_append hws]
      simp [skip_cons, isBlank]
  cases h with
  | lastField h => exact hfield h
  | consField h =>
    rw [List.append_assoc]
    exact hfield h

/-- What the reader takes of a part in front of `tail`, if it has the fuel. -/
def Takes (n : Nat) (cs tail : List Char) : Part → Prop
  | .value v => 2 * cs.length ≤ n → readValue n (cs ++ tail) = some (v, tail)
  | .element v => 2 * cs.length ≤ n →
      ∃ rest, readValue n (cs ++ tail) = some (v, rest) ∧ skip rest = skip tail
  | .elements vs => 2 * cs.length < n → readItems n (cs ++ ']' :: tail) = some (vs, tail)
  | .field f => 2 * cs.length ≤ n →
      ∃ rest, readField n (cs ++ tail) = some (f, rest) ∧ skip rest = skip tail
  | .fields fs => 2 * cs.length < n → readFields n (cs ++ '\x7d' :: tail) = some (fs, tail)

theorem exists_fuel {k : Nat} (h : k < n) : ∃ m, n = m + 1 ∧ k ≤ m :=
  ⟨n - 1, by omega, by omega⟩

/-- **A text that spells a part is taken in full.** Every call of the reader
takes one off the fuel, and each symbol of the part brings two for the calls
behind it. -/
theorem takes_of_spells (h : Spells p cs) (n : Nat) (tail : List Char) : Takes n cs tail p := by
  induction h generalizing n tail with
  | @text s cs htext =>
    intro hn
    obtain ⟨m, rfl, -⟩ := exists_fuel (show 2 * cs.length < n by simp at hn; omega)
    rw [List.append_assoc]
    exact readValue_text (readText_of_spells htext)
  | @emptyList ws hws =>
    intro hn
    obtain ⟨m, rfl, -⟩ := exists_fuel (show 2 * ws.length < n by simp at hn; omega)
    rw [List.append_assoc]
    exact readValue_emptyList (skip_append_cons hws (by decide))
  | @list vs cs hvs ih =>
    intro hn
    obtain ⟨m, rfl, hm⟩ := exists_fuel (show 2 * cs.length + 1 < n by simp at hn; omega)
    rw [List.append_assoc]
    exact readValue_list (fun _ => hvs.skip_ne_bracket) (ih m tail hm)
  | @emptyRecord ws hws =>
    intro hn
    obtain ⟨m, rfl, -⟩ := exists_fuel (show 2 * ws.length < n by simp at hn; omega)
    rw [List.append_assoc]
    exact readValue_emptyRecord (skip_append_cons hws (by decide))
  | @record fs cs hfs ih =>
    intro hn
    obtain ⟨m, rfl, hm⟩ := exists_fuel (show 2 * cs.length + 1 < n by simp at hn; omega)
    rw [List.append_assoc]
    exact readValue_record (fun _ => hfs.skip_ne_brace) (ih m tail hm)
  | @element v ws cs ws' hws hvalue hws' ih =>
    intro hn
    -- the value leaves the blanks behind it, and they are skipped with what follows
    have hread : readValue n (cs ++ (ws' ++ tail)) = some (v, ws' ++ tail) :=
      ih n _ (by simp at hn; omega)
    refine ⟨ws' ++ tail, ?_, skip_append hws'⟩
    rw [← hread, List.append_assoc, List.append_assoc]
    exact readValue_congr (skip_append hws)
  | lastElement hv ih =>
    intro hn
    obtain ⟨m, rfl, hm⟩ := exists_fuel hn
    obtain ⟨rest, hread, hrest⟩ := ih m (']' :: tail) hm
    exact readItems_last hread (hrest.trans (skip_cons (by decide)))
  | @consElement v vs cs ds hv hvs ih ihs =>
    intro hn
    obtain ⟨m, rfl, hm⟩ := exists_fuel hn
    rw [List.length_append, List.length_cons] at hm
    obtain ⟨rest, hread, hrest⟩ := ih m (',' :: ds ++ ']' :: tail) (by omega)
    rw [List.append_assoc]
    exact readItems_cons hread (hrest.trans (skip_cons (by decide))) (ihs m tail (by omega))
  | @field name v ws cs ws' ds hws hname hws' hv ih =>
    intro hn
    obtain ⟨m, rfl, hm⟩ := exists_fuel (show 2 * ds.length < n by simp at hn; omega)
    obtain ⟨rest, hread, hrest⟩ := ih m tail hm
    have htext : readText (cs ++ '"' :: (ws' ++ ':' :: ds ++ tail)) =
        some (name.toList, ws' ++ ':' :: ds ++ tail) := readText_of_spells hname
    refine ⟨rest, ?_, hrest⟩
    simp only [List.append_assoc, List.cons_append] at htext ⊢
    exact readField_cons (skip_append_cons hws (by decide)) htext
      (skip_append_cons hws' (by decide)) hread
  | lastField hf ih =>
    intro hn
    obtain ⟨m, rfl, hm⟩ := exists_fuel hn
    obtain ⟨rest, hread, hrest⟩ := ih m ('\x7d' :: tail) hm
    exact readFields_last hread (hrest.trans (skip_cons (by decide)))
  | @consField f fs cs ds hf hfs ih ihs =>
    intro hn
    obtain ⟨m, rfl, hm⟩ := exists_fuel hn
    rw [List.length_append, List.length_cons] at hm
    obtain ⟨rest, hread, hrest⟩ := ih m (',' :: ds ++ '\x7d' :: tail) (by omega)
    rw [List.append_assoc]
    exact readFields_cons hread (hrest.trans (skip_cons (by decide))) (ihs m tail (by omega))

/-! ## What is spelt -/

/-- What the reader takes with so much fuel spells what it gives. -/
structure Sound (n : Nat) : Prop where
  value {v : Json} {cs rest : List Char} : readValue n cs = some (v, rest) →
    ∃ front, cs = front ++ rest ∧ Spells (.element v) front
  items {vs : List Json} {cs rest : List Char} : readItems n cs = some (vs, rest) →
    ∃ front, cs = front ++ ']' :: rest ∧ Spells (.elements vs) front
  field {f : String × Json} {cs rest : List Char} : readField n cs = some (f, rest) →
    ∃ front, cs = front ++ rest ∧ Spells (.field f) front
  fields {fs : List (String × Json)} {cs rest : List Char} : readFields n cs = some (fs, rest) →
    ∃ front, cs = front ++ '\x7d' :: rest ∧ Spells (.fields fs) front

theorem spells_of_readValue (ih : Sound n) (h : readValue (n + 1) cs = some (v, rest)) :
    ∃ front, cs = front ++ rest ∧ Spells (.element v) front := by
  obtain ⟨ws, hws, hcs⟩ := exists_skip cs
  -- the blanks in front belong to the element, and those behind it are left
  suffices ∃ core, skip cs = core ++ rest ∧ Spells (.value v) core by
    obtain ⟨core, hcore, hvalue⟩ := this
    have helement : Spells (.element v) (ws ++ core ++ []) :=
      .element hws hvalue (by simp [AreBlanks])
    refine ⟨_, ?_, helement⟩
    rw [hcs, hcore]
    simp
  rw [readValue] at h
  split at h
  · rename_i ds hskip
    obtain ⟨⟨s, _⟩, hread, hrest⟩ := Option.bind_eq_some_iff.1 h
    cases hrest
    obtain ⟨front, rfl, hs⟩ := spells_of_readText hread
    rw [← String.toList_ofList (l := s)] at hs
    refine ⟨_, ?_, .text hs⟩
    rw [hskip]
    simp
  · rename_i ds hskip
    obtain ⟨ws', hws', hds⟩ := exists_skip ds
    split at h
    · rename_i es hends
      cases h
      refine ⟨_, ?_, .emptyList hws'⟩
      rw [hskip, hds, hends]
      simp
    · obtain ⟨⟨vs, _⟩, hread, hrest⟩ := Option.bind_eq_some_iff.1 h
      cases hrest
      rw [readItems_congr (skip_skip ds)] at hread
      obtain ⟨front, rfl, hvs⟩ := ih.items hread
      refine ⟨_, ?_, .list hvs⟩
      rw [hskip]
      simp
  · rename_i ds hskip
    obtain ⟨ws', hws', hds⟩ := exists_skip ds
    split at h
    · rename_i es hends
      cases h
      refine ⟨_, ?_, .emptyRecord hws'⟩
      rw [hskip, hds, hends]
      simp
    · obtain ⟨⟨fs, _⟩, hread, hrest⟩ := Option.bind_eq_some_iff.1 h
      cases hrest
      rw [readFields_congr (skip_skip ds)] at hread
      obtain ⟨front, rfl, hfs⟩ := ih.fields hread
      refine ⟨_, ?_, .record hfs⟩
      rw [hskip]
      simp
  · cases h

theorem spells_of_readItems (ih : Sound n) (h : readItems (n + 1) cs = some (vs, rest)) :
    ∃ front, cs = front ++ ']' :: rest ∧ Spells (.elements vs) front := by
  rw [readItems] at h
  obtain ⟨⟨v, back⟩, hread, hnext⟩ := Option.bind_eq_some_iff.1 h
  obtain ⟨front, rfl, hv⟩ := ih.value hread
  obtain ⟨ws, hws, hback⟩ := exists_skip back
  have hfirst := hv.element_append hws
  dsimp only at hnext
  split at hnext
  · rename_i ds hskip
    obtain ⟨⟨vs, _⟩, hreads, hrest⟩ := Option.bind_eq_some_iff.1 hnext
    cases hrest
    obtain ⟨others, rfl, hvs⟩ := ih.items hreads
    refine ⟨_, ?_, .consElement hfirst hvs⟩
    rw [hback, hskip]
    simp
  · rename_i ds hskip
    cases hnext
    refine ⟨_, ?_, .lastElement hfirst⟩
    rw [List.append_assoc, ← hskip, ← hback]
  · cases hnext

theorem spells_of_readField (ih : Sound n) (h : readField (n + 1) cs = some (f, rest)) :
    ∃ front, cs = front ++ rest ∧ Spells (.field f) front := by
  obtain ⟨ws, hws, hcs⟩ := exists_skip cs
  rw [readField] at h
  split at h
  · rename_i ds hskip
    obtain ⟨⟨name, back⟩, hread, hnext⟩ := Option.bind_eq_some_iff.1 h
    obtain ⟨front, rfl, hname⟩ := spells_of_readText hread
    rw [← String.toList_ofList (l := name)] at hname
    obtain ⟨ws', hws', hback⟩ := exists_skip back
    dsimp only at hnext
    split at hnext
    · rename_i es hcolon
      obtain ⟨⟨v, _⟩, hvalue, hrest⟩ := Option.bind_eq_some_iff.1 hnext
      cases hrest
      obtain ⟨core, rfl, hv⟩ := ih.value hvalue
      refine ⟨_, ?_, .field hws hname hws' hv⟩
      rw [hcs, hskip, hback, hcolon]
      simp
    · cases hnext
  · cases h

theorem spells_of_readFields (ih : Sound n) (h : readFields (n + 1) cs = some (fs, rest)) :
    ∃ front, cs = front ++ '\x7d' :: rest ∧ Spells (.fields fs) front := by
  rw [readFields] at h
  obtain ⟨⟨f, back⟩, hread, hnext⟩ := Option.bind_eq_some_iff.1 h
  obtain ⟨front, rfl, hf⟩ := ih.field hread
  obtain ⟨ws, hws, hback⟩ := exists_skip back
  have hfirst := hf.field_append hws
  dsimp only at hnext
  split at hnext
  · rename_i ds hskip
    obtain ⟨⟨fs, _⟩, hreads, hrest⟩ := Option.bind_eq_some_iff.1 hnext
    cases hrest
    obtain ⟨others, rfl, hfs⟩ := ih.fields hreads
    refine ⟨_, ?_, .consField hfirst hfs⟩
    rw [hback, hskip]
    simp
  · rename_i ds hskip
    cases hnext
    refine ⟨_, ?_, .lastField hfirst⟩
    rw [List.append_assoc, ← hskip, ← hback]
  · cases hnext

theorem sound (n : Nat) : Sound n := by
  induction n with
  | zero =>
    refine ⟨fun h => ?_, fun h => ?_, fun h => ?_, fun h => ?_⟩
    · cases h
    · cases h
    · cases h
    · cases h
  | succ n ih =>
    exact ⟨spells_of_readValue ih, spells_of_readItems ih, spells_of_readField ih,
      spells_of_readFields ih⟩

/-- **The texts that are read as a value are those that spell it**, with any
blanks around it and nothing else. -/
theorem read_eq_some_iff : read cs = some v ↔ Spells (.element v) cs := by
  unfold read
  constructor
  · intro h
    split at h
    · rename_i value rest hread
      obtain ⟨front, hcs, hvalue⟩ := (sound _).value hread
      split at h
      · rename_i hrest
        cases h
        obtain ⟨ws, hws, hblank⟩ := exists_skip rest
        rw [hrest, List.append_nil] at hblank
        rw [hcs, hblank]
        exact hvalue.element_append hws
      · cases h
    · cases h
  · intro h
    obtain ⟨rest, hread, hrest⟩ := takes_of_spells h (2 * cs.length + 1) [] (by omega)
    rw [List.append_nil] at hread
    rw [hread]
    exact if_pos hrest

end Json

end TableQuery
