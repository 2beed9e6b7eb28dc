import TableQuery.Failure
import TableQuery.Output.Result
import TableQuery.Settings.Environment
import TableQuery.Storage.Tree
import TableQuery.Text.Character
import TableQuery.Toml.Document

/-!
# Settings

Where tables are looked for, how results are written and what is logged,
as a settings file, variables and defaults say it.
-/

namespace TableQuery

/-! ## Settings and their variables

Variables override single settings; an empty one counts as absent. -/

/-- How results are written. -/
structure OutputSettings where
  format : OutputFormat := .text
  /-- What stands between the cells of a line of plain text. -/
  separator : String := ", "
  deriving DecidableEq, Repr

/-- The settings of the program. -/
structure Settings where
  /-- The directory with the table files. -/
  dataDir : String := "."
  /-- Which events are logged if the logging variable is absent. -/
  logFilter : String := "csvql=warn"
  output : OutputSettings := {}
  deriving DecidableEq, Repr

/-- The settings that hold if nothing else is said. -/
def Settings.defaults : Settings :=
  {}

/-- The format with the given name, in any ASCII case. -/
def OutputFormat.ofName (name : String) : Except SettingsError OutputFormat :=
  let name := Text.asciiLower name
  match named? name with
  | some format => .ok format
  | none => .error (.unknownFormat name)

namespace Settings

/-- The variables that override settings. -/
def dataDirVariable : String :=
  "CSVQL_DATA_DIR"

@[inherit_doc dataDirVariable] def formatVariable : String :=
  "CSVQL_OUTPUT_FORMAT"

@[inherit_doc dataDirVariable] def separatorVariable : String :=
  "CSVQL_SEPARATOR"

@[inherit_doc dataDirVariable] def logVariable : String :=
  "CSVQL_LOG"

/-- The value of a variable that is present and not empty. -/
def value? (lookup : String → Option String) (name : String) : Option String :=
  (lookup name).filter (· ≠ "")

/-- The settings with the data directory overridden. -/
def overrideDataDir (lookup : String → Option String) (s : Settings) : Settings :=
  { s with dataDir := (value? lookup dataDirVariable).getD s.dataDir }

/-- The settings with the separator and the log filter overridden. -/
def overrideTexts (lookup : String → Option String) (s : Settings) : Settings :=
  { s with
    output.separator := (value? lookup separatorVariable).getD s.output.separator
    logFilter := (value? lookup logVariable).getD s.logFilter }

/-- The settings with every variable applied in turn. An unknown format
stops the overriding behind the data directory. -/
def override (lookup : String → Option String) (s : Settings) :
    Settings × Except SettingsError Unit :=
  let s := s.overrideDataDir lookup
  match value? lookup formatVariable with
  | none => (s.overrideTexts lookup, .ok ())
  | some name =>
    match OutputFormat.ofName name with
    | .ok format => ({ s with output.format := format }.overrideTexts lookup, .ok ())
    | .error e => (s, .error e)

/-! ## Settings files

A settings file is a TOML document. Settings that it leaves out have
their defaults, and keys it does not know are skipped. The output
settings are a table, or a list with the format and the separator in this
order; a date or time is taken for a table without known keys. The format
is a text, or a table whose only key is the format and whose value is
empty. -/

open Toml

/-- A text under a key, or the default if the key is missing. -/
def textEntry (es : Entries) (key default : String) : Option String :=
  match es.lookup key with
  | none => some default
  | some (.text s) => some s
  | some _ => none

/-- Whether a value is a list or table without content. -/
def isEmpty : Value → Bool
  | .list [] => true
  | .table _ [] => true
  | .tables [] => true
  | _ => false

/-- The format that the entries of a table stand for. -/
def formatOfEntries? : Entries → Option OutputFormat
  | [(name, v)] => if isEmpty v then OutputFormat.named? name else none
  | _ => none

/-- The format that a value stands for. -/
def format? : Value → Option OutputFormat
  | .text s => OutputFormat.named? s
  | .table _ es => formatOfEntries? es
  | _ => none

/-- The text that a value is. -/
def text? : Value → Option String
  | .text s => some s
  | _ => none

/-- The output settings in a table. -/
def outputOfEntries? (es : Entries) : Option OutputSettings := do
  let format ← match es.lookup "format" with
    | none => some defaults.output.format
    | some v => format? v
  let separator ← textEntry es "separator" defaults.output.separator
  some ⟨format, separator⟩

/-- The output settings in a list. -/
def outputOfList? : List Value → Option OutputSettings
  | [] => some defaults.output
  | [v] => (format? v).map fun format => { defaults.output with format := format }
  | v :: w :: _ => do
    let format ← format? v
    let separator ← text? w
    some ⟨format, separator⟩

/-- The output settings that a value stands for. -/
def output? : Value → Option OutputSettings
  | .table _ es => outputOfEntries? es
  | .list items => outputOfList? items
  | .tables elements => outputOfList? (elements.map (.table .header))
  | .moment => some defaults.output
  | _ => none

/-- The settings in a document. -/
def ofEntries? (es : Entries) : Option Settings := do
  let dataDir ← textEntry es "data_dir" defaults.dataDir
  let logFilter ← textEntry es "log_filter" defaults.logFilter
  let output ← match es.lookup "output" with
    | none => some defaults.output
    | some v => output? v
  some ⟨dataDir, logFilter, output⟩

/-- The settings in the text of a file. -/
def ofText? (text : String) : Option Settings :=
  (Toml.read text).bind ofEntries?

/-! ## Where settings come from

An environment file in the directory sets variables that are not set yet.
A settings file is the one asked for, which must exist, or the default
one in the directory if there is one. Variables override it. -/

/-- The name of the settings file that is used by default. -/
def defaultFile : String :=
  "csvql.toml"

/-- The environment after the environment file of a directory, if it has
one. -/
def loadEnvironment (files : Files) (dir : String) (env : Environment) :
    Except Failure Environment :=
  let path := Path.join dir ".env"
  if files.holds path then
    match files.read path with
    | .error _ => .error (.settings (.invalidEnvFile path))
    | .ok bytes =>
      match env.applyFile bytes with
      | .ok env => .ok env
      | .error .invalid => .error (.settings (.invalidEnvFile path))
      | .error .nullCharacter => .error (.abort .nullCharacter)
  else .ok env

/-- The settings in a file that is there. -/
def readFile (files : Files) (path : String) : Except Failure Settings :=
  match files.read path with
  | .error fault => .error (.file fault)
  | .ok bytes =>
    match Text.ofBytes? bytes with
    | none => .error (.file .notText)
    | some text =>
      match ofText? text with
      | some s => .ok s
      | none => .error (.settings .invalidFile)

/-- The settings before any override. -/
def fromFile (files : Files) (dir : String) (asked : Option String) : Except Failure Settings :=
  match asked with
  | some path =>
    if files.holds path then readFile files path
    else .error (.settings (.missingFile path))
  | none =>
    let path := Path.join dir defaultFile
    if files.holds path then readFile files path else .ok defaults

/-- The settings with the variables of an environment applied. -/
def inEnvironment (env : Environment) (s : Settings) : Except Failure Settings :=
  match s.override env.get? with
  | (s, .ok ()) => .ok s
  | (_, .error e) => .error (.settings e)

/-- The settings for a directory, with the environment they were found
in. -/
def loadWith (files : Files) (env : Environment) (dir : String) (asked : Option String) :
    Except Failure (Settings × Environment) := do
  let env ← loadEnvironment files dir env
  let s ← fromFile files dir asked
  let s ← s.inEnvironment env
  pure (s, env)

/-- The settings for a directory. -/
def load (files : Files) (env : Environment) (dir : String) (asked : Option String) :
    Except Failure Settings :=
  (loadWith files env dir asked).map Prod.fst

end Settings

end TableQuery
