import TableQuery.Text.Character

/-!
# Patterns — what a rule may ask of a value

A pattern is made of characters, classes of characters and places in a
text, which may be repeated, put one behind the other, offered as choices
and grouped. Flags switch how the rest of their group is understood.

No event carries a value. Patterns only tell the rules that can be used
from those that cannot, and are never compared with a text.
-/

namespace TableQuery

namespace Log

/-- A switch of the reading or the meaning of a pattern. -/
inductive Flag
  | ignoreCase
  /-- Lines have starts and ends of their own. -/
  | lines
  /-- The dot stands for a line feed, too. -/
  | dotAll
  /-- Repetitions are as short as they can be. -/
  | short
  /-- Characters are those of Unicode, and not bytes. -/
  | unicode
  /-- A carriage return may stand before a line feed. -/
  | carriageReturns
  /-- Blanks and comments between symbols mean nothing. -/
  | loose
  deriving DecidableEq, Repr

/-- The letter of a flag. -/
def Flag.ofChar? : Char → Option Flag
  | 'i' => some ignoreCase
  | 'm' => some lines
  | 's' => some dotAll
  | 'U' => some short
  | 'u' => some unicode
  | 'R' => some carriageReturns
  | 'x' => some loose
  | _ => none

/-- Flags that are switched on and off together. -/
structure FlagChange where
  on : List Flag := []
  off : List Flag := []
  deriving DecidableEq, Repr

/-- The state of a flag that was in the state `old`. -/
def FlagChange.state (change : FlagChange) (f : Flag) (old : Bool) : Bool :=
  if f ∈ change.on then true else if f ∈ change.off then false else old

/-- The flags that decide what can be read and used. -/
structure Modes where
  ignoreCase : Bool := false
  unicode : Bool := true
  loose : Bool := false
  deriving DecidableEq, Repr

/-- The modes behind a change of flags. -/
def Modes.change (m : Modes) (change : FlagChange) : Modes :=
  { ignoreCase := change.state .ignoreCase m.ignoreCase
    unicode := change.state .unicode m.unicode
    loose := change.state .loose m.loose }

/-- A character that stands for itself. It may be written as the two
hexadecimal digits of a byte. -/
structure Literal where
  char : Char
  asByte : Bool := false
  deriving DecidableEq, Repr

/-- The smallest parts of a class. -/
inductive ClassItem
  | one (l : Literal)
  | range (lo hi : Literal)
  /-- A class of ASCII characters with a name. -/
  | ascii (negated : Bool)
  /-- A class with an escape: digits, blanks or word characters. -/
  | shorthand (negated : Bool)
  deriving DecidableEq, Repr

/-- A class of characters. -/
inductive CharClass
  | empty
  | item (i : ClassItem)
  | union (cs : List CharClass)
  /-- What an operation makes of two classes. -/
  | combined (l r : CharClass)
  | bracket (negated : Bool) (c : CharClass)
  deriving Repr

/-- A pattern. -/
inductive Pattern
  | empty
  | flags (change : FlagChange)
  | literal (l : Literal)
  /-- Any character. -/
  | dot
  /-- A start or an end of a line or of the text. -/
  | edge
  /-- A start, an end or the inside of a word. -/
  | wordEdge
  | shorthand (negated : Bool)
  | oneOf (c : CharClass)
  | repeated (p : Pattern)
  | group (change : FlagChange) (p : Pattern)
  | sequence (ps : List Pattern)
  | choice (ps : List Pattern)
  deriving Repr

/-! ## Depth -/

namespace CharClass

mutual

/-- How deep the parts of a class lie in each other. -/
def depth : CharClass → Nat
  | empty => 0
  | item _ => 0
  | union cs => depthOfAll cs + 1
  | combined l r => max l.depth r.depth + 1
  | bracket _ c => c.depth + 1

/-- The greatest depth in a list. -/
def depthOfAll : List CharClass → Nat
  | [] => 0
  | c :: cs => max c.depth (depthOfAll cs)

end

/-- The class of all that some classes hold. -/
def ofList : List CharClass → CharClass
  | [] => empty
  | [c] => c
  | cs => union cs

end CharClass

namespace Pattern

mutual

/-- How deep the parts of a pattern lie in each other. -/
def depth : Pattern → Nat
  | empty => 0
  | flags _ => 0
  | literal _ => 0
  | dot => 0
  | edge => 0
  | wordEdge => 0
  | shorthand _ => 0
  | oneOf c => c.depth
  | repeated p => p.depth + 1
  | group _ p => p.depth + 1
  | sequence ps => depthOfAll ps + 1
  | choice ps => depthOfAll ps + 1

/-- The greatest depth in a list. -/
def depthOfAll : List Pattern → Nat
  | [] => 0
  | p :: ps => max p.depth (depthOfAll ps)

end

/-- Patterns one behind the other. -/
def ofSequence : List Pattern → Pattern
  | [] => empty
  | [p] => p
  | ps => sequence ps

/-- Patterns to choose from. -/
def ofChoices : List Pattern → Pattern
  | [p] => p
  | ps => choice ps

variable {m : Modes} {p : Pattern} {cs rest : List Char}

/-! ## Blanks and comments -/

/-- The text behind blanks and comments, where a comment goes from `#` to
the end of its line. -/
def skipLoose (inComment : Bool) : List Char → List Char
  | [] => []
  | c :: cs =>
    if inComment then skipLoose (c != '\n') cs
    else if Text.isBlank c then skipLoose false cs
    else if c = '#' then skipLoose true cs
    else c :: cs

theorem skipLoose_length (inComment : Bool) (cs : List Char) :
    (skipLoose inComment cs).length ≤ cs.length := by
  fun_induction skipLoose inComment cs <;> grind

/-- The text behind all that means nothing between symbols. -/
def skip (m : Modes) (cs : List Char) : List Char :=
  if m.loose then skipLoose false cs else cs

theorem skip_length (m : Modes) (cs : List Char) : (skip m cs).length ≤ cs.length := by
  unfold skip
  split
  · exact skipLoose_length false cs
  · exact Nat.le_refl _

grind_pattern skip_length => skip m cs

/-! ## Escapes

A backslash gives the character behind it another meaning or takes a
meaning away. Properties of characters and references to groups are
refused, as is every escape with a brace: no value of a rule holds the
brace that would close it. -/

/-- The value of `count` hexadecimal digits, behind the value `n`. -/
def readHex (m : Modes) (n : Nat) : Nat → List Char → Option (Nat × List Char)
  | 0, cs => some (n, cs)
  | count + 1, cs =>
    match skip m cs with
    | [] => none
    | d :: cs => do
      let d ← Text.hexValue? d
      readHex m (16 * n + d) count cs

theorem readHex_length {n count k : Nat} (h : readHex m n count cs = some (k, rest)) :
    rest.length ≤ cs.length := by
  fun_induction readHex m n count cs with
  | case1 => grind
  | case2 => cases h
  | case3 n count cs d l hl ih =>
    obtain ⟨v, -, h⟩ := Option.bind_eq_some_iff.mp h
    have := ih v h
    grind

/-- The character with a code point of `count` hexadecimal digits. -/
def readCodePoint (m : Modes) (count : Nat) (cs : List Char) : Option (Pattern × List Char) := do
  let (n, cs) ← readHex m 0 count cs
  if n.isValidChar then some (literal ⟨Char.ofNat n, count = 2⟩, cs) else none

theorem readCodePoint_length {count : Nat} (h : readCodePoint m count cs = some (p, rest)) :
    rest.length ≤ cs.length := by
  obtain ⟨⟨n, l⟩, hl, h⟩ := Option.bind_eq_some_iff.mp h
  have := readHex_length hl
  grind

/-- Whether a character stands for itself behind a backslash. -/
def isEscapable (c : Char) : Bool :=
  c.toNat < 0x80 && !c.isAlphanum && c != '<' && c != '>'

/-- What a letter behind a backslash stands for. -/
def escaped? : Char → Option Pattern
  | 'a' => some (literal ⟨'\x07', false⟩)
  | 'f' => some (literal ⟨'\x0c', false⟩)
  | 'n' => some (literal ⟨'\n', false⟩)
  | 'r' => some (literal ⟨'\r', false⟩)
  | 't' => some (literal ⟨'\t', false⟩)
  | 'v' => some (literal ⟨'\x0b', false⟩)
  | 'A' => some edge
  | 'z' => some edge
  | 'b' => some wordEdge
  | 'B' => some wordEdge
  | '<' => some wordEdge
  | '>' => some wordEdge
  | 'd' => some (shorthand false)
  | 's' => some (shorthand false)
  | 'w' => some (shorthand false)
  | 'D' => some (shorthand true)
  | 'S' => some (shorthand true)
  | 'W' => some (shorthand true)
  | _ => none

/-- The escape behind a backslash. -/
def readEscape (m : Modes) : List Char → Option (Pattern × List Char)
  | [] => none
  | 'x' :: cs => readCodePoint m 2 cs
  | 'u' :: cs => readCodePoint m 4 cs
  | 'U' :: cs => readCodePoint m 8 cs
  | c :: cs =>
    if isEscapable c then some (literal ⟨c, false⟩, cs) else (escaped? c).map fun p => (p, cs)

@[grind →] theorem readEscape_length (h : readEscape m cs = some (p, rest)) :
    rest.length < cs.length := by
  unfold readEscape at h
  split at h
  · cases h
  case h_2 | h_3 | h_4 => exact Nat.lt_succ_of_le (readCodePoint_length h)
  · split at h
    · grind
    · obtain ⟨q, -, h⟩ := Option.map_eq_some_iff.mp h
      grind

/-! ## Classes in brackets

A class lists characters, ranges and further classes. Intersections,
differences and symmetric differences, all of one rank, are taken from the
left, each of two lists. -/

/-- The names of the ASCII classes. -/
def asciiClasses : List String :=
  ["alnum", "alpha", "ascii", "blank", "cntrl", "digit", "graph", "lower", "print", "punct",
    "space", "upper", "word", "xdigit"]

/-- An ASCII class behind its opening bracket, and whether it is
negated. -/
def readAscii : List Char → Option (Bool × List Char)
  | ':' :: cs =>
    let negated := cs.head? == some '^'
    let cs := if negated then cs.drop 1 else cs
    match cs.dropWhile (· ≠ ':') with
    | ':' :: ']' :: rest =>
      if String.ofList (cs.takeWhile (· ≠ ':')) ∈ asciiClasses then some (negated, rest) else none
    | _ => none
  | _ => none

@[grind →] theorem readAscii_length {negated : Bool} (h : readAscii cs = some (negated, rest)) :
    rest.length < cs.length := by
  unfold readAscii at h
  split at h
  · rename_i l
    have := (List.dropWhile_sublist (l := if (l.head? == some '^') then l.drop 1 else l)
      (· ≠ ':')).length_le
    grind
  · cases h

/-- Whether a class is negated, and what follows behind its opening
bracket. -/
def readNegation (m : Modes) (cs : List Char) : Bool × List Char :=
  match skip m cs with
  | '^' :: cs => (true, cs)
  | cs => (false, cs)

theorem readNegation_length (m : Modes) (cs : List Char) :
    (readNegation m cs).2.length ≤ cs.length := by
  unfold readNegation
  split <;> grind

grind_pattern readNegation_length => readNegation m cs

/-- The character behind a dash that decides whether the dash makes a
range. Of a comment before it only the `#` is passed over. -/
def behindDash? (m : Modes) (cs : List Char) : Option Char :=
  if m.loose then
    let next :=
      match Text.dropBlanks cs with
      | '#' :: cs => Text.dropBlanks cs
      | cs => cs
    next.head?.or cs.head?
  else cs.head?

/-- A character or an escape in a class. -/
def readClassSymbol (m : Modes) : List Char → Option (Pattern × List Char)
  | [] => none
  | '\\' :: cs => readEscape m cs
  | c :: cs => some (literal ⟨c, false⟩, cs)

@[grind →] theorem readClassSymbol_length (h : readClassSymbol m cs = some (p, rest)) :
    rest.length < cs.length := by
  unfold readClassSymbol at h
  split at h <;> grind

/-- The part of a class that a symbol alone stands for. -/
def single? : Pattern → Option ClassItem
  | literal l => some (.one l)
  | shorthand negated => some (.shorthand negated)
  | _ => none

/-- The range between two symbols, which must be characters in order. -/
def range? : Pattern → Pattern → Option ClassItem
  | literal lo, literal hi => if lo.char ≤ hi.char then some (.range lo hi) else none
  | _, _ => none

/-- A symbol or a range of a class. A dash makes no range before the end
of the class or another dash. -/
def readClassItem (m : Modes) (cs : List Char) : Option (ClassItem × List Char) := do
  let (p, cs) ← readClassSymbol m cs
  match skip m cs with
  | [] => none
  | '-' :: rest =>
    if behindDash? m rest = some ']' ∨ behindDash? m rest = some '-' then
      (single? p).map fun i => (i, '-' :: rest)
    else do
      let (q, rest) ← readClassSymbol m (skip m rest)
      (range? p q).map fun i => (i, rest)
  | cs => (single? p).map fun i => (i, cs)

@[grind →] theorem readClassItem_length {i : ClassItem}
    (h : readClassItem m cs = some (i, rest)) : rest.length < cs.length := by
  obtain ⟨⟨p, l⟩, hp, h⟩ := Option.bind_eq_some_iff.mp h
  dsimp only at h
  split at h
  · cases h
  · split at h
    · obtain ⟨j, -, h⟩ := Option.map_eq_some_iff.mp h
      grind
    · obtain ⟨⟨q, l'⟩, hq, h⟩ := Option.bind_eq_some_iff.mp h
      obtain ⟨j, -, h⟩ := Option.map_eq_some_iff.mp h
      grind
  · obtain ⟨j, -, h⟩ := Option.map_eq_some_iff.mp h
    grind

/-- A class whose closing bracket has not been read: whether it is
negated, what stands before its last operation, and the items behind
that, last one first. -/
structure OpenClass where
  negated : Bool
  before : Option CharClass := none
  items : List CharClass := []
  deriving Repr

namespace OpenClass

/-- The class with one more item. -/
def add (o : OpenClass) (c : CharClass) : OpenClass :=
  { o with items := c :: o.items }

/-- All that has been read of the class. -/
def contents (o : OpenClass) : CharClass :=
  let c := CharClass.ofList o.items.reverse
  match o.before with
  | none => c
  | some b => .combined b c

/-- The class behind an operation. -/
def operate (o : OpenClass) : OpenClass :=
  { o with before := some o.contents, items := [] }

/-- The class with its closing bracket. -/
def close (o : OpenClass) : CharClass :=
  .bracket o.negated o.contents

end OpenClass

/-- The rest of the class `o`, which lies in the classes `outer`, innermost
first. At its `start`, dashes stand for themselves, and so does a closing
bracket that comes first. -/
def readClass (m : Modes) (start : Bool) (o : OpenClass) (outer : List OpenClass)
    (cs : List Char) : Option (CharClass × List Char) :=
  match start, _h : skip m cs with
  | _, [] => none
  | true, '-' :: l => readClass m true (o.add (.item (.one ⟨'-', false⟩))) outer l
  | start, ']' :: l =>
    if start ∧ o.items.isEmpty then
      readClass m false (o.add (.item (.one ⟨']', false⟩))) outer l
    else
      match outer with
      | [] => some (o.close, l)
      | p :: outer => readClass m false (p.add o.close) outer l
  | _, '[' :: l =>
    match _ha : readAscii l with
    | some (negated, l) => readClass m false (o.add (.item (.ascii negated))) outer l
    | none =>
      let inner := readNegation m l
      readClass m true { negated := inner.1 } (o :: outer) inner.2
  | _, '&' :: '&' :: l => readClass m false o.operate outer l
  | _, '-' :: '-' :: l => readClass m false o.operate outer l
  | _, '~' :: '~' :: l => readClass m false o.operate outer l
  | _, l =>
    match _hi : readClassItem m l with
    | none => none
    | some (i, l) => readClass m false (o.add (.item i)) outer l
termination_by cs.length
decreasing_by all_goals grind

@[grind →] theorem readClass_length {start : Bool} {o : OpenClass} {outer : List OpenClass}
    {c : CharClass} (h : readClass m start o outer cs = some (c, rest)) :
    rest.length < cs.length := by
  fun_induction readClass m start o outer cs <;> grind

/-- A class in brackets, behind the opening one. -/
def readBracket (m : Modes) (cs : List Char) : Option (CharClass × List Char) :=
  let inner := readNegation m cs
  readClass m true { negated := inner.1 } [] inner.2

@[grind →] theorem readBracket_length {c : CharClass} (h : readBracket m cs = some (c, rest)) :
    rest.length < cs.length := by
  unfold readBracket at h
  grind

end Pattern

end Log

end TableQuery
