import TableQuery.Output.Json

/-!
# JSON — what is printed

A value is printed as one of the texts that spell it, at every level of
indentation. Every character may stand where it is printed: the ones that
may not stand for themselves have a letter or are escaped by their number.
-/

namespace TableQuery

namespace Json

variable {c : Char}

/-! ## Blanks -/

theorem areBlanks_nil : AreBlanks [] := by
  intro c hc
  cases hc

theorem areBlanks_newLine (level : Nat) : AreBlanks (newLine level) := by
  intro c hc
  rcases List.mem_cons.1 hc with rfl | hspace
  · decide
  · obtain rfl := List.eq_of_mem_replicate hspace
    decide

/-! ## Characters -/

/-- A control character has two digits. -/
theorem spellsChar_hexDigit (hc : c.toNat < 0x20) :
    SpellsChar c
      ['\\', 'u', '0', '0', Text.hexDigit (c.toNat / 16), Text.hexDigit (c.toNat % 16)] := by
  have hzero : Text.hexValue? '0' = some 0 := by decide
  have hhigh := Text.hexValue?_hexDigit (c.toNat / 16) (by omega)
  have hlow := Text.hexValue?_hexDigit (c.toNat % 16) (by omega)
  exact .digits hzero hzero hhigh hlow (by omega)

/-- **What a character is printed as stands for it.** -/
theorem spells_escape (c : Char) : SpellsChar c (escape c) := by
  unfold escape
  split
  · rename_i hquote
    exact .letter (by rw [hquote]; decide)
  split
  · rename_i hbackslash
    exact .letter (by rw [hbackslash]; decide)
  split
  · rename_i hlineFeed
    exact .letter (by rw [hlineFeed]; decide)
  split
  · rename_i hreturn
    exact .letter (by rw [hreturn]; decide)
  split
  · rename_i htab
    exact .letter (by rw [htab]; decide)
  split
  · rename_i hbackspace
    exact .letter (by rw [hbackspace]; decide)
  split
  · rename_i hformFeed
    exact .letter (by rw [hformFeed]; decide)
  split
  · rename_i hcontrol
    exact spellsChar_hexDigit hcontrol
  · rename_i hquote hbackslash _ _ _ _ _ hcontrol
    exact .plain (by omega) hquote hbackslash

theorem spells_flatMap_escape (s : List Char) : SpellsText s (s.flatMap escape) := by
  induction s with
  | nil => exact .nil
  | cons c s ih => exact .cons (spells_escape c) ih

/-! ## Values -/

mutual

/-- **What a value is printed as spells the value.** -/
theorem spells_pretty (level : Nat) : (v : Json) → Spells (.value v) (pretty level v)
  | .text s => .text (spells_flatMap_escape s.toList)
  | .list [] => .emptyList areBlanks_nil
  | .list (v :: vs) => by
    have hfirst (ws : List Char) (hws : AreBlanks ws) :
        Spells (.element v) (newLine (level + 1) ++ pretty (level + 1) v ++ ws) :=
      .element (areBlanks_newLine (level + 1)) (spells_pretty (level + 1) v) hws
    have hvs := spells_prettyItems (level + 1) vs hfirst (areBlanks_newLine level)
    simpa [pretty] using Spells.list hvs
  | .record [] => .emptyRecord areBlanks_nil
  | .record (f :: fs) => by
    have hfirst (ws : List Char) (hws : AreBlanks ws) :
        Spells (.field f) (newLine (level + 1) ++ prettyField (level + 1) f ++ ws) :=
      spells_prettyField (level + 1) f (areBlanks_newLine (level + 1)) hws
    have hfs := spells_prettyFields (level + 1) fs hfirst (areBlanks_newLine level)
    simpa [pretty] using Spells.record hfs

/-- No blank stands in front of a comma; the blanks behind the last element
are those in front of the bracket. -/
theorem spells_prettyItems (level : Nat) : (vs : List Json) → {v : Json} → {cs ws : List Char} →
    (∀ ws, AreBlanks ws → Spells (.element v) (cs ++ ws)) → AreBlanks ws →
    Spells (.elements (v :: vs)) (cs ++ prettyItems level vs ++ ws)
  | [], _, cs, ws, hfirst, hws => by
    simpa [prettyItems] using Spells.lastElement (hfirst ws hws)
  | v :: vs, _, cs, ws, hfirst, hws => by
    have hsecond (ws : List Char) (hws : AreBlanks ws) :
        Spells (.element v) (newLine level ++ pretty level v ++ ws) :=
      .element (areBlanks_newLine level) (spells_pretty level v) hws
    have hvs := spells_prettyItems level vs hsecond hws
    simpa [prettyItems] using Spells.consElement (hfirst [] areBlanks_nil) hvs

theorem spells_prettyField (level : Nat) : (f : String × Json) → {ws ws' : List Char} →
    AreBlanks ws → AreBlanks ws' → Spells (.field f) (ws ++ prettyField level f ++ ws')
  | (name, v), ws, ws', hws, hws' => by
    have hspace : AreBlanks [' '] := by simp [AreBlanks]
    have hname := spells_flatMap_escape name.toList
    have hvalue := Spells.element hspace (spells_pretty level v) hws'
    simpa [prettyField, quoted] using Spells.field hws hname areBlanks_nil hvalue

theorem spells_prettyFields (level : Nat) : (fs : List (String × Json)) → {f : String × Json} →
    {cs ws : List Char} → (∀ ws, AreBlanks ws → Spells (.field f) (cs ++ ws)) → AreBlanks ws →
    Spells (.fields (f :: fs)) (cs ++ prettyFields level fs ++ ws)
  | [], _, cs, ws, hfirst, hws => by
    simpa [prettyFields] using Spells.lastField (hfirst ws hws)
  | f :: fs, _, cs, ws, hfirst, hws => by
    have hsecond (ws : List Char) (hws : AreBlanks ws) :
        Spells (.field f) (newLine level ++ prettyField level f ++ ws) :=
      spells_prettyField level f (areBlanks_newLine level) hws
    have hfs := spells_prettyFields level fs hsecond hws
    simpa [prettyFields] using Spells.consField (hfirst [] areBlanks_nil) hfs

end

end Json

end TableQuery
