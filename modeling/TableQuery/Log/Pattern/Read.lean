import TableQuery.Log.Pattern
import TableQuery.Text.Alphanumeric
import TableQuery.Text.Character

/-!
# Patterns — reading

A pattern is read from the left, with the groups and classes that are
still open in a list. Flags hold to the end of the group they stand in,
also across a bar. Counts in braces are refused: no value of a rule holds
the brace that would close them.
-/

namespace TableQuery

namespace Log

/-- The change that the letters of a group spell. Each letter comes once,
and letters behind the only dash are switched off. -/
def FlagChange.ofLetters? (letters : List Char) : Option FlagChange := do
  let on ← (letters.takeWhile (· ≠ '-')).mapM Flag.ofChar?
  let off ← match letters.dropWhile (· ≠ '-') with
    | [] => some []
    | ['-'] => none
    | _ :: letters => letters.mapM Flag.ofChar?
  if (on ++ off).Nodup then some ⟨on, off⟩ else none

namespace Pattern

variable {m : Modes} {p : Pattern} {cs rest : List Char}

/-! ## Groups -/

/-- Whether a character may stand in the name of a group. -/
def isNameChar (c : Char) : Bool :=
  c == '_' || c == '.' || c == '[' || c == ']' || Text.isAlphanumeric c

/-- Whether a group may have a name. -/
def isName : List Char → Bool
  | [] => false
  | c :: cs => (c == '_' || Text.isAlphabetic c) && cs.all isNameChar

/-- What an opening parenthesis begins. -/
inductive Opening
  /-- A change of flags, complete with its closing parenthesis. -/
  | flags (change : FlagChange)
  | group (change : FlagChange) (name : Option (List Char))
  deriving DecidableEq, Repr

/-- The name of a group, behind the bracket that opens it. -/
def readName (cs : List Char) : Option (Opening × List Char) :=
  match cs.dropWhile (· ≠ '>') with
  | [] => none
  | _ :: rest =>
    let name := cs.takeWhile (· ≠ '>')
    if isName name then some (.group {} (some name), rest) else none

theorem readName_length {o : Opening} (h : readName cs = some (o, rest)) :
    rest.length ≤ cs.length := by
  have := (List.dropWhile_sublist (l := cs) (· ≠ '>')).length_le
  unfold readName at h
  split at h <;> grind

/-- The flags behind a question mark. -/
def readFlags (cs : List Char) : Option (Opening × List Char) :=
  let isEnd := fun c => c == ':' || c == ')'
  match cs.dropWhile (!isEnd ·) with
  | [] => none
  | close :: rest => do
    let letters := cs.takeWhile (!isEnd ·)
    let change ← FlagChange.ofLetters? letters
    if close = ':' then some (.group change none, rest)
    else if letters = [] then none
    else some (.flags change, rest)

theorem readFlags_length {o : Opening} (h : readFlags cs = some (o, rest)) :
    rest.length ≤ cs.length := by
  have := (List.dropWhile_sublist (l := cs) (!(fun c => c == ':' || c == ')') ·)).length_le
  unfold readFlags at h
  dsimp only at h
  split at h
  · cases h
  · obtain ⟨change, -, h⟩ := Option.bind_eq_some_iff.mp h
    grind

/-- What an opening parenthesis begins, read behind it. -/
def readOpening (m : Modes) (cs : List Char) : Option (Opening × List Char) :=
  match skip m cs with
  | '?' :: 'P' :: '<' :: cs => readName cs
  | '?' :: '<' :: cs => readName cs
  | '?' :: cs => readFlags cs
  | cs => some (.group {} none, cs)

@[grind →] theorem readOpening_length {o : Opening} (h : readOpening m cs = some (o, rest)) :
    rest.length ≤ cs.length := by
  unfold readOpening at h
  split at h <;> grind [→ readName_length, → readFlags_length]

/-- The names of groups with one more, which must be new. -/
def addName (names : List (List Char)) : Option (List Char) → Option (List (List Char))
  | none => some names
  | some name => if name ∈ names then none else some (name :: names)

/-! ## Patterns -/

/-- The pattern that begins with a character and is no group, bar or
repetition. -/
def readAtom (m : Modes) (c : Char) (cs : List Char) : Option (Pattern × List Char) :=
  match c with
  | '[' => (readBracket m cs).map fun (c, cs) => (oneOf c, cs)
  | '\\' => readEscape m cs
  | '\x7b' => none
  | '.' => some (dot, cs)
  | '^' => some (edge, cs)
  | '$' => some (edge, cs)
  | c => some (literal ⟨c, false⟩, cs)

@[grind →] theorem readAtom_length {c : Char} (h : readAtom m c cs = some (p, rest)) :
    rest.length ≤ cs.length := by
  unfold readAtom at h
  split at h
  · obtain ⟨⟨b, l⟩, hb, h⟩ := Option.map_eq_some_iff.mp h
    grind
  all_goals grind

/-- The patterns read so far with the last one repeated, if there is one
that can be. -/
def repeatLast : List Pattern → Option (List Pattern)
  | [] => none
  | flags _ :: _ => none
  | p :: ps => some (repeated p :: ps)

/-- The text behind the mark of a repetition that is as short as it can
be. -/
def skipShort : List Char → List Char
  | '?' :: cs => cs
  | cs => cs

theorem skipShort_length (cs : List Char) : (skipShort cs).length ≤ cs.length := by
  unfold skipShort
  split <;> grind

grind_pattern skipShort_length => skipShort cs

/-- A group whose closing parenthesis has not been read, or the whole
text: the modes at its end so far, the change of flags it began with, and
the choices before the current one and the parts of that, both last one
first. -/
structure OpenGroup where
  modes : Modes := {}
  change : FlagChange := {}
  choices : List Pattern := []
  parts : List Pattern := []
  deriving Repr

namespace OpenGroup

/-- The group with one more part. -/
def add (g : OpenGroup) (p : Pattern) : OpenGroup :=
  { g with parts := p :: g.parts }

/-- The group behind a change of flags. -/
def setFlags (g : OpenGroup) (change : FlagChange) : OpenGroup :=
  { g.add (.flags change) with modes := g.modes.change change }

/-- The group behind a bar. -/
def choose (g : OpenGroup) : OpenGroup :=
  { g with choices := ofSequence g.parts.reverse :: g.choices, parts := [] }

/-- All that has been read of the group. -/
def contents (g : OpenGroup) : Pattern :=
  ofChoices g.choose.choices.reverse

/-- The group with its closing parenthesis. -/
def close (g : OpenGroup) : Pattern :=
  .group g.change g.contents

end OpenGroup

/-- The pattern that the rest of the text makes of the group `g`, which
lies in the groups `outer`, innermost first. `names` are the names of all
groups so far. -/
def readGroup (names : List (List Char)) (g : OpenGroup) (outer : List OpenGroup)
    (cs : List Char) : Option Pattern :=
  match _h : skip g.modes cs with
  | [] => if outer.isEmpty then some g.contents else none
  | ')' :: l =>
    match outer with
    | [] => none
    | o :: outer => readGroup names (o.add g.close) outer l
  | '|' :: l => readGroup names g.choose outer l
  | '(' :: l =>
    match _ho : readOpening g.modes l with
    | none => none
    | some (.flags change, l) => readGroup names (g.setFlags change) outer l
    | some (.group change name, l) =>
      match addName names name with
      | none => none
      | some names =>
        readGroup names { modes := g.modes.change change, change } (g :: outer) l
  | c :: l =>
    if c = '?' ∨ c = '*' ∨ c = '+' then
      match repeatLast g.parts with
      | none => none
      | some parts => readGroup names { g with parts } outer (skipShort l)
    else
      match _ha : readAtom g.modes c l with
      | none => none
      | some (p, l) => readGroup names (g.add p) outer l
termination_by cs.length
decreasing_by all_goals grind

/-- The pattern that a text spells. -/
def ofChars? (cs : List Char) : Option Pattern :=
  readGroup [] {} [] cs

end Pattern

/-! ## Patterns that can be used

Of Unicode, only the code points themselves are known: neither case nor
the classes of digits, blanks and word characters, nor the places at the
ends of words. Without the flag for Unicode all these are those of ASCII,
but nothing may stand for a part of a character. Parts may lie in each
other up to a fixed depth. -/

/-- Whether a part of a class can be used. -/
def ClassItem.isUsable (m : Modes) : ClassItem → Bool
  | one l => if m.unicode then !m.ignoreCase else l.char.toNat < 0x80
  | range lo hi =>
    if m.unicode then !m.ignoreCase else lo.char.toNat < 0x80 && hi.char.toNat < 0x80
  | ascii negated => if m.unicode then !m.ignoreCase else !negated
  | shorthand negated => !m.unicode && !negated

namespace CharClass

mutual

/-- Whether a class can be used. -/
def isUsable (m : Modes) : CharClass → Bool
  | empty => true
  | item i => i.isUsable m
  | union cs => areUsable m cs
  | combined l r => l.isUsable m && r.isUsable m
  | bracket negated c => (m.unicode || !negated) && c.isUsable m

/-- Whether all classes of a list can be used. -/
def areUsable (m : Modes) : List CharClass → Bool
  | [] => true
  | c :: cs => c.isUsable m && areUsable m cs

end

end CharClass

namespace Pattern

/-- How deep the parts of a pattern may lie in each other. -/
def maxDepth : Nat :=
  250

mutual

/-- The modes behind a pattern, if it can be used in the modes before
it. -/
def use (m : Modes) : Pattern → Option Modes
  | empty => some m
  | flags change => some (m.change change)
  | literal l =>
    if m.unicode then if m.ignoreCase then none else some m
    else if l.asByte ∧ 0x80 ≤ l.char.toNat then none
    else some m
  | dot => if m.unicode then some m else none
  | edge => some m
  | wordEdge => if m.unicode then none else some m
  | shorthand negated => if m.unicode ∨ negated then none else some m
  | oneOf c => if c.isUsable m then some m else none
  | repeated p => p.use m
  | group change p => (p.use (m.change change)).map fun _ => m
  | sequence ps => useAll m ps
  | choice ps => useAll m ps

/-- The modes behind patterns that are used one after the other. -/
def useAll (m : Modes) : List Pattern → Option Modes
  | [] => some m
  | p :: ps =>
    match p.use m with
    | none => none
    | some m => useAll m ps

end

/-- Whether a pattern can be used. -/
def isUsable (p : Pattern) : Bool :=
  p.depth ≤ maxDepth && (p.use {}).isSome

end Pattern

/-- Whether a text is a number behind its plus sign. -/
def isPlusNumber : List Char → Bool
  | '+' :: cs => Text.isNumber cs
  | _ => false

/-- Whether a rule may ask for a value. Numbers are compared as numbers,
and of these only one with a plus sign would not be a pattern as well. -/
def isValueTest (value : List Char) : Bool :=
  isPlusNumber value || (Pattern.ofChars? value).any (·.isUsable)

end Log

end TableQuery
