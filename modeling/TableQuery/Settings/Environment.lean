import TableQuery.Text.Alphanumeric
import TableQuery.Text.Character
import TableQuery.Text.Utf8

/-!
# Environments

The variables of a process, and the files that add to them.
-/

namespace TableQuery

/-! ## Variables

The variables of a process. A process sees each of them as one text, the
name and the value with an equals sign between them, and finds the value
of a name behind that name and an equals sign. So a name with an equals
sign of its own reaches into a value. -/

/-- Variables with their values; of two entries for one name the first
counts. -/
structure Environment where
  bindings : List (String × String) := []
  deriving DecidableEq, Repr

namespace Environment

/-- The text of a variable. -/
def entry (name value : List Char) : List Char :=
  name ++ '=' :: value

/-- The value that a name finds in the text of a variable. -/
def valueIn? (name entry : List Char) : Option String :=
  if (name ++ ['=']).isPrefixOf entry then some (String.ofList (entry.drop (name.length + 1)))
  else none

/-- The value of a variable. No variable has an empty name. -/
def get? (e : Environment) (name : String) : Option String :=
  if name = "" then none
  else e.bindings.findSome? fun b => valueIn? name.toList (entry b.1.toList b.2.toList)

/-- Sets a variable unless it is there already, if only as an empty
one. -/
def setNew (e : Environment) (name value : String) : Environment :=
  match e.get? name with
  | some _ => e
  | none => ⟨e.bindings ++ [(name, value)]⟩

/-- A name finds the value of its own variable. -/
theorem valueIn?_entry (name : List Char) (value : String) :
    valueIn? name (entry name value.toList) = some value := by
  simp [valueIn?, entry, List.isPrefixOf_iff_prefix]

theorem takeWhile_entry {name : List Char} (value : List Char) (h : '=' ∉ name) :
    (entry name value).takeWhile (· ≠ '=') = name := by
  have plain : ∀ c ∈ name, decide (c ≠ '=') = true := by
    intro c hc
    exact decide_eq_true fun e => h (e ▸ hc)
  rw [entry, List.takeWhile_append_of_pos plain]
  simp

/-- A name without an equals sign finds nothing in another variable whose
name has none either. -/
theorem valueIn?_entry_of_ne {name other : List Char} (value : List Char) (hn : '=' ∉ name)
    (ho : '=' ∉ other) (h : name ≠ other) : valueIn? name (entry other value) = none := by
  rw [valueIn?, if_neg]
  rw [List.isPrefixOf_iff_prefix]
  rintro ⟨rest, hrest⟩
  apply h
  rw [← takeWhile_entry value ho, ← hrest, List.append_assoc]
  exact (takeWhile_entry rest hn).symm

end Environment

/-! ## Environment files

A file of assignments, one on a line unless a quote is open at its end.
Values may be bare, in single quotes, where every character stands for
itself, or in double quotes; bare and double-quoted text may name
variables to be replaced by their values. The assignments are made in
order and never change a variable that is set.

The lines are found with a coarse view of quotes and comments, and read
and carried out one by one. A line that cannot be found or read makes the
file invalid; a value with a null character, which no variable can hold,
is a fault of its own. -/

namespace EnvFile

/-- Why a file cannot be carried out. -/
inductive Fault
  | invalid
  | nullCharacter
  deriving DecidableEq, Repr

/-! ### Lines -/

/-- What the end of a line depends on. -/
inductive LineState
  | plain
  /-- Behind a single blank, where `#` opens a comment. -/
  | blank
  | escape
  | single
  | singleEscape
  | double
  | doubleEscape
  deriving DecidableEq, Repr

/-- The state outside quotes behind a character that is no blank. -/
def LineState.behind (c : Char) : LineState :=
  if c = '\\' then escape
  else if c = '"' then double
  else if c = '\'' then single
  else plain

/-- The state behind one more character; none if it opens a comment. -/
def LineState.step (s : LineState) (c : Char) : Option LineState :=
  match s with
  | blank => if c = '#' then none else some (behind c)
  | escape => some plain
  | plain =>
    if Text.isBlank c ∧ c ≠ '\n' ∧ c ≠ '\r' then some blank else some (behind c)
  | double => some (if c = '\\' then doubleEscape else if c = '"' then plain else double)
  | doubleEscape => some double
  | single => some (if c = '\\' then singleEscape else if c = '\'' then plain else single)
  | singleEscape => some single

/-- The state behind a line, or the part of the line before a comment. -/
def lineEnd (s : LineState) : List Char → LineState ⊕ List Char
  | [] => .inl s
  | c :: cs =>
    match s.step c with
    | none => .inr []
    | some s => (lineEnd s cs).map id (c :: ·)

/-- The lines of a file, each with its line feed. -/
def rawLines : List UInt8 → List (List UInt8)
  | [] => []
  | b :: bs =>
    if b = 0x0A then [b] :: rawLines bs
    else
      match rawLines bs with
      | [] => [[b]]
      | l :: ls => (b :: l) :: ls

/-- The characters of a line, if it is a text. -/
def lineText? (line : List UInt8) : Option (List Char) :=
  (Text.ofBytes? line).map String.toList

/-- A line without its line feed and a carriage return before that. -/
def chomp (line : List Char) : List Char :=
  match line.reverse with
  | '\n' :: '\r' :: cs => cs.reverse
  | '\n' :: cs => cs.reverse
  | _ => line

/-- The assignments' lines, where an open quote joins a line to the next
one. `begun` is the line so far. Behind the last line stands none if the
next one is no text, or if the file ends inside a quote, behind a
backslash or behind a blank. -/
def joinLines (s : LineState) (begun : List Char) :
    List (Option (List Char)) → List (Option (List Char))
  | [] => if s = .plain then [] else [none]
  | none :: _ => [none]
  | some l :: ls =>
    let line := begun ++ l
    if (Text.dropBlanks line).head? = some '#' then joinLines .plain [] ls
    else
      match lineEnd s l with
      | .inr kept => some (begun ++ kept) :: joinLines .plain [] ls
      | .inl .plain => some (chomp line) :: joinLines .plain [] ls
      | .inl s => joinLines s line ls

/-! ### Values -/

/-- Where in a value the reading stands. -/
inductive ValueMode
  | bare
  | single
  | double
  /-- Behind a blank, where only blanks and a comment may follow. -/
  | ended
  | escape (inDouble : Bool)
  /-- In the name of a variable, last character first. -/
  | named (inDouble : Bool) (name : List Char)
  /-- In the name of a variable in braces, last character first. -/
  | braced (inDouble : Bool) (name : List Char)
  deriving DecidableEq, Repr

/-- The mode outside single quotes. -/
def ValueMode.outside (inDouble : Bool) : ValueMode :=
  if inDouble then double else bare

/-- The characters of a variable's value, last one first. -/
def valueOf (env : Environment) (name : List Char) : List Char :=
  ((env.get? (String.ofList name.reverse)).getD "").toList.reverse

/-- The value of the remaining characters, behind the characters `out`,
last one first. The character that ends the name of a variable stands for
itself, a quote included. -/
def readValue (env : Environment) (mode : ValueMode) (out : List Char) :
    List Char → Option (List Char)
  | [] =>
    match mode with
    | .bare | .ended | .escape false => some out.reverse
    | .named false name => some (valueOf env name ++ out).reverse
    | _ => none
  | c :: cs =>
    match mode with
    | .ended =>
      if c = ' ' ∨ c = '\t' then readValue env .ended out cs
      else if c = '#' then some out.reverse
      else none
    | .escape d =>
      if c = '\\' ∨ c = '\'' ∨ c = '"' ∨ c = '$' ∨ c = ' ' then
        readValue env (.outside d) (c :: out) cs
      else if c = 'n' then readValue env (.outside d) ('\n' :: out) cs
      else none
    | .single =>
      if c = '\'' then readValue env .bare out cs else readValue env .single (c :: out) cs
    | .named d name =>
      if Text.isAlphanumeric c then readValue env (.named d (c :: name)) out cs
      else if c = '\x7b' ∧ name = [] then readValue env (.braced d []) out cs
      else if c = '$' then readValue env (.named d []) (valueOf env name ++ out) cs
      else readValue env (.outside d) (c :: (valueOf env name ++ out)) cs
    | .braced d name =>
      if c = '\x7d' then readValue env (.outside d) (valueOf env name ++ out) cs
      else readValue env (.braced d (c :: name)) out cs
    | .double =>
      if c = '$' then readValue env (.named true []) out cs
      else if c = '"' then readValue env .bare out cs
      else if c = '\\' then readValue env (.escape true) out cs
      else readValue env .double (c :: out) cs
    | .bare =>
      if c = '$' then readValue env (.named false []) out cs
      else if c = '\'' then readValue env .single out cs
      else if c = '"' then readValue env .double out cs
      else if c = '\\' then readValue env (.escape false) out cs
      else if c = ' ' ∨ c = '\t' then readValue env .ended out cs
      else readValue env .bare (c :: out) cs

/-! ### Assignments -/

/-- Whether a character may start the name of a variable. -/
def isNameStart (c : Char) : Bool :=
  c.isAlpha || c == '_'

/-- Whether a character may stand in the name of a variable. -/
def isNameChar (c : Char) : Bool :=
  c.isAlphanum || c == '_' || c == '.'

/-- The name at the start of a line, and what follows it. -/
def readName (cs : List Char) : Option (List Char × List Char) :=
  match cs with
  | [] => none
  | c :: _ =>
    if isNameStart c then some (cs.takeWhile isNameChar, cs.dropWhile isNameChar) else none

/-- What follows an equals sign behind blanks. -/
def readEquals (cs : List Char) : Option (List Char) :=
  match Text.dropBlanks cs with
  | '=' :: rest => some rest
  | _ => none

/-- The name that a line assigns to and the text of its value. The word
`export` may stand in front, and may also be the name. -/
def readTarget (cs : List Char) : Option (List Char × List Char) := do
  let (name, rest) ← readName cs
  match readEquals rest with
  | some value => some (name, value)
  | none =>
    if name = "export".toList then
      let (name, rest) ← readName (Text.dropBlanks rest)
      let value ← readEquals rest
      some (name, value)
    else none

/-- The name and the value that a line assigns to it; none if it is no
assignment. -/
def readAssignment? (env : Environment) (line : List Char) :
    Option (List Char × List Char) := do
  let (name, rest) ← readTarget line
  let rest := Text.dropBlanks rest
  let value ← if rest.head? = some '#' then some [] else readValue env .bare [] rest
  some (name, value)

/-- The environment after an assignment. -/
def assign (env : Environment) (name value : List Char) : Except Fault Environment :=
  let name := String.ofList name
  if (env.get? name).isNone ∧ '\x00' ∈ value then .error .nullCharacter
  else .ok (env.setNew name (String.ofList value))

/-- The environment after a line: it holds an assignment or nothing but
blanks and a comment. -/
def applyLine (env : Environment) (line : List Char) : Except Fault Environment :=
  let line := Text.dropBlanks (Text.dropTrailingBlanks line)
  if line = [] ∨ line.head? = some '#' then .ok env
  else
    match readAssignment? env line with
    | none => .error .invalid
    | some (name, value) => assign env name value

/-- The bytes of a file without a byte-order mark in front. -/
def content (file : List UInt8) : List UInt8 :=
  match file with
  | 0xEF :: 0xBB :: 0xBF :: rest => rest
  | bs => bs

/-- The lines of a file, one after the other, and none where there is no
further line but something else. -/
def lines (file : List UInt8) : List (Option (List Char)) :=
  joinLines .plain [] ((rawLines (content file)).map lineText?)

/-- The environment after what may be a line. -/
def applyNext (env : Environment) : Option (List Char) → Except Fault Environment
  | none => .error .invalid
  | some line => applyLine env line

end EnvFile

/-- The environment after all assignments of a file. -/
def Environment.applyFile (env : Environment) (file : List UInt8) :
    Except EnvFile.Fault Environment :=
  (EnvFile.lines file).foldlM EnvFile.applyNext env

end TableQuery
