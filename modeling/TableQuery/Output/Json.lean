import TableQuery.Text.Character

/-!
# JSON

The values needed for a dump: texts, lists and records with their fields
in a fixed order. They are printed on several lines (`pretty`), spelt by a
grammar (`Spells`) and read (`read`).
-/

namespace TableQuery

/-! ## Values and their text

The text is indented by two spaces a level, one item or field on a line;
an empty list or record stays on its line. -/

/-- A JSON value without numbers and literals. -/
inductive Json
  | text (s : String)
  | list (items : List Json)
  | record (fields : List (String × Json))
  deriving Repr

namespace Json

/-- One character as it stands between the quotes. -/
def escape (c : Char) : List Char :=
  if c = '"' then ['\\', '"']
  else if c = '\\' then ['\\', '\\']
  else if c = '\n' then ['\\', 'n']
  else if c = '\r' then ['\\', 'r']
  else if c = '\t' then ['\\', 't']
  else if c = '\x08' then ['\\', 'b']
  else if c = '\x0c' then ['\\', 'f']
  else if c.toNat < 0x20 then
    ['\\', 'u', '0', '0', Text.hexDigit (c.toNat / 16), Text.hexDigit (c.toNat % 16)]
  else [c]

/-- A text in quotes. -/
def quoted (s : String) : List Char :=
  '"' :: s.toList.flatMap escape ++ ['"']

/-- A line break and the indentation of a level. -/
def newLine (level : Nat) : List Char :=
  '\n' :: List.replicate (2 * level) ' '

mutual

/-- A value whose first line is already indented to the level. -/
def pretty (level : Nat) : Json → List Char
  | text s => quoted s
  | list [] => ['[', ']']
  | list (x :: xs) =>
    '[' :: newLine (level + 1) ++ pretty (level + 1) x ++ prettyItems (level + 1) xs ++
      newLine level ++ [']']
  | record [] => ['\x7b', '\x7d']
  | record (f :: fs) =>
    '\x7b' :: newLine (level + 1) ++ prettyField (level + 1) f ++ prettyFields (level + 1) fs ++
      newLine level ++ ['\x7d']

/-- The items after the first, each on a line of its own. -/
def prettyItems (level : Nat) : List Json → List Char
  | [] => []
  | x :: xs => ',' :: newLine level ++ pretty level x ++ prettyItems level xs

/-- A field with its name. -/
def prettyField (level : Nat) : String × Json → List Char
  | (name, value) => quoted name ++ [':', ' '] ++ pretty level value

/-- The fields after the first, each on a line of its own. -/
def prettyFields (level : Nat) : List (String × Json) → List Char
  | [] => []
  | f :: fs => ',' :: newLine level ++ prettyField level f ++ prettyFields level fs

end

/-! ## The grammar of values

Which texts spell which values, by the grammar of JSON without numbers and
literals. An element is a value with blanks around it. Lists and records
have elements and fields with commas between them and none behind the last
one, and between the quotes of a text every character stands for itself or
is escaped. -/

/-- The characters that stand behind a backslash, and what they stand for. -/
def letterEscapes : List (Char × Char) :=
  [('"', '"'), ('\\', '\\'), ('/', '/'), ('b', '\x08'), ('f', '\x0c'), ('n', '\n'), ('r', '\r'),
    ('t', '\t')]

/-- What may stand between quotes for a character. -/
inductive SpellsChar (c : Char) : List Char → Prop
  | plain : 0x20 ≤ c.toNat → c ≠ '"' → c ≠ '\\' → SpellsChar c [c]
  | letter {x : Char} : (x, c) ∈ letterEscapes → SpellsChar c ['\\', x]
  | digits {w x y z : Char} {i j k l : Nat} :
      Text.hexValue? w = some i → Text.hexValue? x = some j → Text.hexValue? y = some k →
      Text.hexValue? z = some l → c.toNat = ((i * 16 + j) * 16 + k) * 16 + l →
      SpellsChar c ['\\', 'u', w, x, y, z]

/-- What may stand between quotes for a list of characters. -/
inductive SpellsText : List Char → List Char → Prop
  | nil : SpellsText [] []
  | cons {c : Char} {s xs ys : List Char} :
      SpellsChar c xs → SpellsText s ys → SpellsText (c :: s) (xs ++ ys)

/-- Whether all characters are blanks. -/
def AreBlanks (cs : List Char) : Prop :=
  ∀ c ∈ cs, c ∈ [' ', '\t', '\n', '\r']

/-- A part of a JSON text, by what it spells. -/
inductive Part
  | value (v : Json)
  | element (v : Json)
  | elements (vs : List Json)
  | field (f : String × Json)
  | fields (fs : List (String × Json))

/-- The characters spell the part. -/
inductive Spells : Part → List Char → Prop
  | text {s : String} {cs : List Char} :
      SpellsText s.toList cs → Spells (.value (.text s)) ('"' :: cs ++ ['"'])
  | emptyList {ws : List Char} :
      AreBlanks ws → Spells (.value (.list [])) ('[' :: ws ++ [']'])
  | list {vs : List Json} {cs : List Char} :
      Spells (.elements vs) cs → Spells (.value (.list vs)) ('[' :: cs ++ [']'])
  | emptyRecord {ws : List Char} :
      AreBlanks ws → Spells (.value (.record [])) ('\x7b' :: ws ++ ['\x7d'])
  | record {fs : List (String × Json)} {cs : List Char} :
      Spells (.fields fs) cs → Spells (.value (.record fs)) ('\x7b' :: cs ++ ['\x7d'])
  | element {v : Json} {ws cs ws' : List Char} :
      AreBlanks ws → Spells (.value v) cs → AreBlanks ws' → Spells (.element v) (ws ++ cs ++ ws')
  | lastElement {v : Json} {cs : List Char} :
      Spells (.element v) cs → Spells (.elements [v]) cs
  | consElement {v : Json} {vs : List Json} {cs ds : List Char} :
      Spells (.element v) cs → Spells (.elements vs) ds →
      Spells (.elements (v :: vs)) (cs ++ ',' :: ds)
  | field {name : String} {v : Json} {ws cs ws' ds : List Char} :
      AreBlanks ws → SpellsText name.toList cs → AreBlanks ws' → Spells (.element v) ds →
      Spells (.field (name, v)) (ws ++ '"' :: cs ++ '"' :: ws' ++ ':' :: ds)
  | lastField {f : String × Json} {cs : List Char} :
      Spells (.field f) cs → Spells (.fields [f]) cs
  | consField {f : String × Json} {fs : List (String × Json)} {cs ds : List Char} :
      Spells (.field f) cs → Spells (.fields fs) ds → Spells (.fields (f :: fs)) (cs ++ ',' :: ds)

/-! ## Reading values from text

The values are those of a dump: texts, lists and records. Blanks may
stand between any two symbols, and nothing else may stand behind the
value. Numbers and literals are refused. -/

/-- A blank between symbols. -/
def isBlank (c : Char) : Bool :=
  c == ' ' || c == '\t' || c == '\n' || c == '\r'

/-- The text behind blanks. -/
def skip (cs : List Char) : List Char :=
  cs.dropWhile isBlank

/-! ### Texts -/

/-- The character with a code point of four hexadecimal digits. -/
def codePoint? (a b c d : Char) : Option Char := do
  let a ← Text.hexValue? a
  let b ← Text.hexValue? b
  let c ← Text.hexValue? c
  let d ← Text.hexValue? d
  let n := ((a * 16 + b) * 16 + c) * 16 + d
  if n.isValidChar then some (Char.ofNat n) else none

/-- The character that a letter behind a backslash stands for. -/
def escaped? : Char → Option Char
  | '"' => some '"'
  | '\\' => some '\\'
  | '/' => some '/'
  | 'b' => some '\x08'
  | 'f' => some '\x0c'
  | 'n' => some '\n'
  | 'r' => some '\r'
  | 't' => some '\t'
  | _ => none

/-- The rest of a text behind its opening quote. Escapes stand for single
characters; a half of a character is refused. -/
def readText : List Char → Option (List Char × List Char)
  | [] => none
  | '"' :: cs => some ([], cs)
  | '\\' :: 'u' :: a :: b :: c :: d :: cs => do
    let e ← codePoint? a b c d
    let (s, cs) ← readText cs
    some (e :: s, cs)
  | '\\' :: c :: cs => do
    let e ← escaped? c
    let (s, cs) ← readText cs
    some (e :: s, cs)
  | c :: cs =>
    if c = '\\' ∨ c.toNat < 0x20 then none
    else do
      let (s, cs) ← readText cs
      some (c :: s, cs)

/-! ### Values -/

mutual

/-- The value at the start of a text. -/
def readValue (fuel : Nat) (cs : List Char) : Option (Json × List Char) :=
  match fuel with
  | 0 => none
  | n + 1 =>
    match skip cs with
    | '"' :: cs => do
      let (s, cs) ← readText cs
      some (.text (String.ofList s), cs)
    | '[' :: cs =>
      match skip cs with
      | ']' :: cs => some (.list [], cs)
      | cs => do
        let (items, cs) ← readItems n cs
        some (.list items, cs)
    | '\x7b' :: cs =>
      match skip cs with
      | '\x7d' :: cs => some (.record [], cs)
      | cs => do
        let (fields, cs) ← readFields n cs
        some (.record fields, cs)
    | _ => none

/-- One or more items, and the bracket behind them. -/
def readItems (fuel : Nat) (cs : List Char) : Option (List Json × List Char) :=
  match fuel with
  | 0 => none
  | n + 1 => do
    let (item, cs) ← readValue n cs
    match skip cs with
    | ',' :: cs =>
      let (items, cs) ← readItems n cs
      some (item :: items, cs)
    | ']' :: cs => some ([item], cs)
    | _ => none

/-- One or more fields, and the brace behind them. -/
def readFields (fuel : Nat) (cs : List Char) : Option (List (String × Json) × List Char) :=
  match fuel with
  | 0 => none
  | n + 1 => do
    let (field, cs) ← readField n cs
    match skip cs with
    | ',' :: cs =>
      let (fields, cs) ← readFields n cs
      some (field :: fields, cs)
    | '\x7d' :: cs => some ([field], cs)
    | _ => none

/-- A field with its name. -/
def readField (fuel : Nat) (cs : List Char) : Option ((String × Json) × List Char) :=
  match fuel with
  | 0 => none
  | n + 1 =>
    match skip cs with
    | '"' :: cs => do
      let (name, cs) ← readText cs
      match skip cs with
      | ':' :: cs =>
        let (value, cs) ← readValue n cs
        some ((String.ofList name, value), cs)
      | _ => none
    | _ => none

end

/-- The value that a text spells. -/
def read (cs : List Char) : Option Json :=
  match readValue (2 * cs.length + 1) cs with
  | some (value, rest) => if skip rest = [] then some value else none
  | none => none

end Json

end TableQuery
