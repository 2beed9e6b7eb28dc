import TableQuery.CommandLine.Command
import TableQuery.Proofs.Settings.Load

/-!
# Precedence — where each setting of a command comes from

Five places can say what a setting is: the arguments, the environment, the
environment file, the settings file and the defaults. For a command whose
settings are found, each setting is what the first of these says that says
anything of it, whatever they say of the other settings
(`Arguments.text_request_of_load`). An empty variable of the environment
would stand between the environment file and its setting, so there must be
none.
-/

namespace TableQuery

namespace Settings

open Toml

variable {files : Files} {dir : String} {asked : Option String} {s : Settings}

/-- The entries of the document that is the file at a path. -/
def Documented (files : Files) (path : String) (es : Entries) : Prop :=
  ∃ bytes t, files.read path = .ok bytes ∧ Text.ofBytes? bytes = some t ∧ Toml.read t = some es

/-- The entries of the settings file: the file that is asked for, or else
the one in the directory. Without a file there are none. -/
inductive Filed (files : Files) (dir : String) : Option String → Entries → Prop
  | asked {path : String} {es : Entries} :
      files.holds path = true → Documented files path es → Filed files dir (some path) es
  | found {es : Entries} :
      files.holds (Path.join dir defaultFile) = true →
      Documented files (Path.join dir defaultFile) es → Filed files dir none es
  | absent : files.holds (Path.join dir defaultFile) = false → Filed files dir none []

theorem text_of_readFile {path : String} (h : readFile files path = .ok s) :
    ∃ es, Documented files path es ∧ ∀ v, s.text v = (said? es v).getD (defaults.text v) := by
  unfold readFile at h
  split at h
  · cases h
  rename_i bytes hread
  split at h
  · cases h
  rename_i t htext
  split at h
  · rename_i hsettings
    cases h
    obtain ⟨es, hes, hsettings⟩ := Option.bind_eq_some_iff.1 hsettings
    exact ⟨es, ⟨bytes, t, hread, htext, hes⟩, text_of_ofEntries? hsettings⟩
  · cases h

/-- **Settings before any override** are what the settings file says of
them, and defaults where it says nothing. -/
theorem text_of_fromFile (h : fromFile files dir asked = .ok s) :
    ∃ es, Filed files dir asked es ∧ ∀ v, s.text v = (said? es v).getD (defaults.text v) := by
  unfold fromFile at h
  split at h
  · split at h
    · rename_i hholds
      obtain ⟨es, hes, htext⟩ := text_of_readFile h
      exact ⟨es, .asked hholds hes, htext⟩
    · cases h
  · simp only at h
    split at h
    · rename_i hholds
      obtain ⟨es, hes, htext⟩ := text_of_readFile h
      exact ⟨es, .found hholds hes, htext⟩
    · rename_i hholds
      cases h
      refine ⟨[], .absent (by simpa using hholds), fun v => ?_⟩
      cases v <;> rfl

end Settings

namespace CommandLine

namespace Arguments

open Settings

variable {a : Arguments} {files : Files} {dir : String} {env : Environment} {s : Settings}

/-- The setting that the arguments ask for. They have options for two of
the settings only. -/
def said? (a : Arguments) : Variable → Option String
  | .dataDir => a.dataDir
  | .format => a.format.map OutputFormat.name
  | _ => none

theorem text_request (a : Arguments) (s : Settings) (v : Variable) :
    (a.request s).settings.text v = (a.said? v).getD (s.text v) := by
  cases v with
  | format => exact (Option.getD_map OutputFormat.name s.output.format a.format).symm
  | _ => rfl

/-- **The settings of a command**, each of which is the first that is
available of: the argument, the variable of the environment, the first
assignment in the environment file unless it is empty, the entry of the
settings file, and the default. -/
theorem text_request_of_load (hset : ∀ v : Variable, env.get? v.name ≠ some "")
    (h : Settings.load files env dir a.settingsFile = .ok s) :
    ∃ as es, Assigned files dir env as ∧ Filed files dir a.settingsFile es ∧
      ∀ v : Variable, (a.request s).settings.text v =
        (a.said? v <|> (env.get? v.name).map v.setting <|>
          ((as.lookup v.name).filter (· ≠ "")).map v.setting <|> Settings.said? es v).getD
            (defaults.text v) := by
  obtain ⟨as, base, has, hbase, htext⟩ := text_of_load h
  obtain ⟨es, hes, hbase⟩ := text_of_fromFile hbase
  refine ⟨as, es, has, hes, fun v => ?_⟩
  rw [text_request, htext v, hbase v]
  cases hvalue : env.get? v.name with
  | some x =>
    -- the environment file does not come to speak
    have hx : x ≠ "" := fun heq => hset v (heq ▸ hvalue)
    cases a.said? v <;> simp [hx, Option.filter_some]
  | none =>
    rw [Option.none_or]
    cases a.said? v <;>
      cases ((as.lookup v.name).filter (· ≠ "")).map v.setting <;> simp

/-- A directory `d` with an environment file and a settings file. -/
def twoFiles : Files :=
  Snapshot.files
    [("d/.env", .ok (Text.bytes ("CSVQL_SEPARATOR=;\nCSVQL_OUTPUT_FORMAT=Csv\nCSVQL_LOG=\n" ++
      "CSVQL_LOG=debug\nCSVQL_DATA_DIR=e\n"))),
    ("d/csvql.toml", .ok (Text.bytes "log_filter = 'info'\n[output]\nformat = 'text'"))]

/-- An environment with one of the variables. -/
def barEnvironment : Environment :=
  ⟨[("CSVQL_SEPARATOR", "|")]⟩

/-- Arguments that ask for a directory. -/
def inFolder : Arguments :=
  { query := "", dataDir := some "a" }

/-- The four settings from four places, where the first assignment to one
of the variables is empty. -/
theorem text_request_of_load_twoFiles :
    (∀ v : Variable, barEnvironment.get? v.name ≠ some "") ∧
    Settings.load twoFiles barEnvironment "d" none = .ok ⟨"e", "info", ⟨.csv, "|"⟩⟩ ∧
    (inFolder.request ⟨"e", "info", ⟨.csv, "|"⟩⟩).settings = ⟨"a", "info", ⟨.csv, "|"⟩⟩ ∧
    ∃ as es, Assigned twoFiles "d" barEnvironment as ∧ Filed twoFiles "d" none es ∧
      ∀ v : Variable, Settings.text ⟨"a", "info", ⟨.csv, "|"⟩⟩ v =
        (inFolder.said? v <|> (barEnvironment.get? v.name).map v.setting <|>
          ((as.lookup v.name).filter (· ≠ "")).map v.setting <|> Settings.said? es v).getD
            (defaults.text v) := by
  have hset : ∀ v : Variable, barEnvironment.get? v.name ≠ some "" := by
    intro v
    cases v <;> decide
  have hload : Settings.load twoFiles barEnvironment "d" none =
      .ok ⟨"e", "info", ⟨.csv, "|"⟩⟩ := by
    decide +kernel
  exact ⟨hset, hload, rfl, text_request_of_load (a := inFolder) hset hload⟩

end Arguments

end CommandLine

end TableQuery
