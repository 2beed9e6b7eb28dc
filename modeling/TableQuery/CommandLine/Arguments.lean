import TableQuery.Output.ClauseDump
import TableQuery.Output.Result

/-!
# Arguments

The words of a command line: one query, flags, and options with a value.
A value stands behind an equals sign, right behind a short option, or in
the next word, which must not look like a flag. Behind a lone `--` every
word is text. Words are read from left to right, and the first one that
makes no sense is the error.
-/

namespace TableQuery

namespace CommandLine

/-- The options that take a value. -/
inductive ValueOption
  | dumpFormat
  | dataDir
  | format
  | settingsFile
  deriving DecidableEq, Repr

namespace ValueOption

/-- Every option with a value. -/
def all : List ValueOption :=
  [dumpFormat, dataDir, format, settingsFile]

/-- The name behind two dashes. -/
def longName : ValueOption → String
  | dumpFormat => "ast-format"
  | dataDir => "data-dir"
  | format => "format"
  | settingsFile => "config"

/-- The letter behind one dash, if the option has one. -/
def letter? : ValueOption → Option Char
  | dumpFormat => none
  | dataDir => some 'd'
  | format => some 'f'
  | settingsFile => some 'c'

def ofLongName? (name : String) : Option ValueOption :=
  all.find? (·.longName == name)

def ofLetter? (c : Char) : Option ValueOption :=
  all.find? (·.letter? == some c)

end ValueOption

/-- Why the arguments ask for no run. -/
inductive Refusal
  /-- Help was asked for. -/
  | help
  | unknownFlag (name : String)
  | repeatedFlag (name : String)
  /-- A flag without values has one. -/
  | unwantedValue (name : String)
  | missingValue (option : ValueOption)
  | invalidValue (option : ValueOption) (value : String)
  | missingQuery
  | secondQuery (word : String)
  deriving DecidableEq, Repr

namespace Refusal

/-- What is wrong with the words, in short: without the usage and without
the values that would be possible. -/
def message : Refusal → String
  | help => "Query CSV files with SQL. SELECT, FROM, WHERE, and LIMIT are supported."
  | unknownFlag name => "unexpected argument '" ++ name ++ "' found"
  | repeatedFlag name => "the argument '--" ++ name ++ "' cannot be used multiple times"
  | unwantedValue name => "unexpected value for '--" ++ name ++ "' found; no more were expected"
  | missingValue option =>
    "a value is required for '--" ++ option.longName ++ "' but none was supplied"
  | invalidValue option value =>
    "invalid value '" ++ value ++ "' for '--" ++ option.longName ++ "'"
  | missingQuery => "the following required arguments were not provided: <QUERY>"
  | secondQuery word => "unexpected argument '" ++ word ++ "' found"

/-- The exit status of a process that is refused. -/
def exitCode : Refusal → Nat
  | help => 0
  | _ => 2

end Refusal

/-- The arguments of a run. -/
structure Arguments where
  query : String
  /-- How the clauses are dumped, if they are. -/
  dump : Option DumpFormat := none
  dataDir : Option String := none
  format : Option OutputFormat := none
  settingsFile : Option String := none
  deriving DecidableEq, Repr

/-- What the words read so far say. -/
structure Draft where
  query : Option String := none
  dump : Bool := false
  dumpFormat : Option DumpFormat := none
  dataDir : Option String := none
  format : Option OutputFormat := none
  settingsFile : Option String := none
  deriving DecidableEq, Repr

/-! ## Single words -/

/-- What a word stands for. -/
inductive Word
  /-- A lone `--`. -/
  | separator
  /-- A query or the value of an option. -/
  | text
  | help
  | dump
  | option (o : ValueOption) (attached : Option String)
  deriving DecidableEq, Repr

namespace Word

/-- A flag that must not have a value. -/
def flag (name : String) (value : Option String) (w : Word) : Except Refusal Word :=
  match value with
  | none => .ok w
  | some _ => .error (.unwantedValue name)

/-- What a name behind two dashes stands for. -/
def long (name : String) (value : Option String) : Except Refusal Word :=
  if name = "ast" then flag name value dump
  else if name = "help" then flag name value help
  else
    match ValueOption.ofLongName? name with
    | some o => .ok (option o value)
    | none => .error (.unknownFlag ("--" ++ name))

/-- What the characters behind two dashes stand for. -/
def ofLong (cs : List Char) : Except Refusal Word :=
  let name := String.ofList (cs.takeWhile (· ≠ '='))
  match cs.dropWhile (· ≠ '=') with
  | [] => long name none
  | _ :: value => long name (some (String.ofList value))

/-- The value right behind a short option; one equals sign is no part of
it. -/
def attached : List Char → Option String
  | [] => none
  | '=' :: cs => some (String.ofList cs)
  | cs => some (String.ofList cs)

/-- What a letter behind one dash stands for, with what follows it. -/
def ofShort (c : Char) (cs : List Char) : Except Refusal Word :=
  if c = 'h' then .ok help
  else
    match ValueOption.ofLetter? c with
    | some o => .ok (option o (attached cs))
    | none => .error (.unknownFlag ("-" ++ String.singleton c))

/-- What a word stands for. A lone dash is text. -/
def ofText (word : String) : Except Refusal Word :=
  match word.toList with
  | ['-', '-'] => .ok separator
  | '-' :: '-' :: cs => ofLong cs
  | '-' :: c :: cs => ofShort c cs
  | _ => .ok text

/-- Whether a word can be the value of the option before it. -/
def isText (word : String) : Bool :=
  match ofText word with
  | .ok .text => true
  | _ => false

end Word

/-! ## Filling the draft -/

/-- A path, which is never empty. -/
def path? (value : String) : Option String :=
  if value = "" then none else some value

namespace Draft

/-- Whether an option has its value already. -/
def has (d : Draft) : ValueOption → Bool
  | .dumpFormat => d.dumpFormat.isSome
  | .dataDir => d.dataDir.isSome
  | .format => d.format.isSome
  | .settingsFile => d.settingsFile.isSome

/-- The draft with the value of an option, if the value is valid. -/
def put? (d : Draft) (value : String) : ValueOption → Option Draft
  | .dumpFormat => (DumpFormat.named? value).map fun v => { d with dumpFormat := some v }
  | .dataDir => (path? value).map fun v => { d with dataDir := some v }
  | .format => (OutputFormat.named? value).map fun v => { d with format := some v }
  | .settingsFile => (path? value).map fun v => { d with settingsFile := some v }

/-- Takes the value of an option. -/
def setOption (d : Draft) (o : ValueOption) (value : String) : Except Refusal Draft :=
  if d.has o then .error (.repeatedFlag o.longName)
  else
    match d.put? value o with
    | some d => .ok d
    | none => .error (.invalidValue o value)

/-- Takes a word as the query. -/
def setQuery (d : Draft) (word : String) : Except Refusal Draft :=
  match d.query with
  | none => .ok { d with query := some word }
  | some _ => .error (.secondQuery word)

/-- Takes the flag that asks for a dump. -/
def setDump (d : Draft) : Except Refusal Draft :=
  if d.dump then .error (.repeatedFlag "ast") else .ok { d with dump := true }

/-- What the draft lacks to be complete, or the arguments. -/
def complete (d : Draft) : Except Refusal Arguments :=
  match d.query with
  | none => .error .missingQuery
  | some query =>
    let dump := if d.dump then some (d.dumpFormat.getD .text) else none
    .ok ⟨query, dump, d.dataDir, d.format, d.settingsFile⟩

end Draft

/-! ## All words -/

/-- Reads the words behind those of the draft. -/
def readWords (d : Draft) : List String → Except Refusal Draft
  | [] => .ok d
  | word :: words => do
    match ← Word.ofText word with
    | .separator => words.foldlM Draft.setQuery d
    | .text => readWords (← d.setQuery word) words
    | .help => .error .help
    | .dump => readWords (← d.setDump) words
    | .option o (some value) => readWords (← d.setOption o value) words
    | .option o none =>
      match words with
      | [] => .error (.missingValue o)
      | value :: words =>
        if Word.isText value then readWords (← d.setOption o value) words
        else .error (.missingValue o)

/-- The arguments that the words of a command line stand for. -/
def Arguments.ofWords (words : List String) : Except Refusal Arguments := do
  let d ← readWords {} words
  d.complete

end CommandLine

end TableQuery
