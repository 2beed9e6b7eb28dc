import TableQuery.Proofs.Settings.Environment
import TableQuery.Proofs.Settings.Override
import TableQuery.Settings.Load

/-!
# Loading settings — what the variables have to say

Settings that are loaded are those of the settings file with the variables
on top. A variable has its value from the environment, or else from the
first assignment to it in the environment file, and where that value is
empty it overrides nothing (`text_of_load`).

So an empty variable of the environment is not the same as a missing one.
It says nothing itself, but it keeps the environment file from setting the
variable, and the setting is that of the settings file. Where the
environment file does not assign to the variable, the two are the same
(`load_insert_empty`).
-/

namespace TableQuery

namespace Settings

/-! ## What a document says of each setting

A document is asked for one setting after the other, whatever the others
are (`said?`). The settings in a document are what it says of them, and
defaults where it says nothing (`text_of_ofEntries?`). -/

section Document

open Toml

variable {es : Entries} {s : Settings} {o : OutputSettings}

/-- A part of the output settings: an entry of a table, or the item of a
list that stands in its place. -/
def outputPart? (key : String) (place : Nat) : Value → Option Value
  | .table _ es => es.lookup key
  | .list items => items[place]?
  | .tables elements => (elements.map (.table .header))[place]?
  | _ => none

/-- What a document says of a setting, if it says anything. -/
def said? (es : Entries) : Variable → Option String
  | .dataDir => (es.lookup "data_dir").bind text?
  | .format =>
    (((es.lookup "output").bind (outputPart? "format" 0)).bind format?).map OutputFormat.name
  | .separator => ((es.lookup "output").bind (outputPart? "separator" 1)).bind text?
  | .logFilter => (es.lookup "log_filter").bind text?

/-! ### Parts that may be missing -/

/-- A part that is read where it is there, and has its default elsewhere. -/
theorem eq_getD_of_elim {α β : Type} {x : Option α} {read : α → Option β} {default b : β}
    (h : x.elim (some default) read = some b) : b = (x.bind read).getD default := by
  cases x with
  | none => exact (Option.some.inj h).symm
  | some a =>
    rw [Option.bind_some, (show read a = some b from h)]
    rfl

theorem textEntry_eq (es : Entries) (key default : String) :
    textEntry es key default = (es.lookup key).elim (some default) text? := by
  unfold textEntry
  cases es.lookup key with
  | none => rfl
  | some v => cases v <;> rfl

theorem outputOfEntries?_eq (es : Entries) :
    outputOfEntries? es =
      ((es.lookup "format").elim (some defaults.output.format) format?).bind fun f =>
        ((es.lookup "separator").elim (some defaults.output.separator) text?).bind fun t =>
          some ⟨f, t⟩ := by
  rw [← textEntry_eq, outputOfEntries?]
  cases es.lookup "format" <;> rfl

theorem ofEntries?_eq (es : Entries) :
    ofEntries? es =
      ((es.lookup "data_dir").elim (some defaults.dataDir) text?).bind fun dataDir =>
        ((es.lookup "log_filter").elim (some defaults.logFilter) text?).bind fun logFilter =>
          ((es.lookup "output").elim (some defaults.output) output?).bind fun o =>
            some ⟨dataDir, logFilter, o⟩ := by
  rw [← textEntry_eq, ← textEntry_eq, ofEntries?]
  cases es.lookup "output" <;> rfl

/-! ### What is said -/

/-- The first item of a list is the format and the second the separator. -/
theorem of_outputOfList? {items : List Value} (h : outputOfList? items = some o) :
    o.format = (items[0]?.bind format?).getD defaults.output.format ∧
      o.separator = (items[1]?.bind text?).getD defaults.output.separator := by
  unfold outputOfList? at h
  split at h
  · cases h
    exact ⟨rfl, rfl⟩
  · obtain ⟨f, hf, rfl⟩ := Option.map_eq_some_iff.1 h
    simp [hf]
  · obtain ⟨f, hf, h⟩ := Option.bind_eq_some_iff.1 h
    obtain ⟨t, ht, h⟩ := Option.bind_eq_some_iff.1 h
    cases h
    simp [hf, ht]

theorem of_outputOfEntries? (h : outputOfEntries? es = some o) :
    o.format = ((es.lookup "format").bind format?).getD defaults.output.format ∧
      o.separator = ((es.lookup "separator").bind text?).getD defaults.output.separator := by
  rw [outputOfEntries?_eq] at h
  obtain ⟨f, hf, h⟩ := Option.bind_eq_some_iff.1 h
  obtain ⟨t, ht, h⟩ := Option.bind_eq_some_iff.1 h
  cases h
  exact ⟨eq_getD_of_elim hf, eq_getD_of_elim ht⟩

/-- **Output settings**, in whatever form they are written. -/
theorem of_output? {v : Value} (h : output? v = some o) :
    o.format = ((outputPart? "format" 0 v).bind format?).getD defaults.output.format ∧
      o.separator = ((outputPart? "separator" 1 v).bind text?).getD defaults.output.separator := by
  cases v with
  | table origin es => exact of_outputOfEntries? h
  | list items => exact of_outputOfList? h
  | tables elements => exact of_outputOfList? h
  | moment =>
    cases h
    exact ⟨rfl, rfl⟩
  | text => cases h
  | plain => cases h

/-- **Every setting in a document** is what the document says of it, or the
default. -/
theorem text_of_ofEntries? (h : ofEntries? es = some s) (v : Variable) :
    s.text v = (said? es v).getD (defaults.text v) := by
  rw [ofEntries?_eq] at h
  obtain ⟨dataDir, hdataDir, h⟩ := Option.bind_eq_some_iff.1 h
  obtain ⟨logFilter, hlogFilter, h⟩ := Option.bind_eq_some_iff.1 h
  obtain ⟨o, houtput, h⟩ := Option.bind_eq_some_iff.1 h
  cases h
  have hparts : o.format =
        (((es.lookup "output").bind (outputPart? "format" 0)).bind format?).getD
          defaults.output.format ∧
      o.separator = (((es.lookup "output").bind (outputPart? "separator" 1)).bind text?).getD
          defaults.output.separator := by
    cases hvalue : es.lookup "output" with
    | none =>
      rw [hvalue] at houtput
      cases houtput
      exact ⟨rfl, rfl⟩
    | some w =>
      rw [hvalue] at houtput
      exact of_output? houtput
  cases v with
  | dataDir => exact eq_getD_of_elim hdataDir
  | format => rw [text, hparts.1, said?, text, Option.getD_map]
  | separator => exact hparts.2
  | logFilter => exact eq_getD_of_elim hlogFilter

end Document

variable {files : Files} {dir name : String} {asked : Option String} {env env' : Environment}
variable {s s' : Settings}

/-- The assignments of the environment file of a directory. A directory
without such a file has none. -/
inductive Assigned (files : Files) (dir : String) (env : Environment) :
    List (String × String) → Prop
  | absent : files.holds (Path.join dir ".env") = false → Assigned files dir env []
  | file {bytes : List UInt8} {as : List (String × String)} :
      files.holds (Path.join dir ".env") = true →
      files.read (Path.join dir ".env") = .ok bytes →
      EnvFile.Assigns env (EnvFile.lines bytes) as → Assigned files dir env as

/-- Whether a line of the environment file of a directory assigns to the
variable. -/
def Targeted (files : Files) (dir name : String) : Prop :=
  ∃ bytes line, files.holds (Path.join dir ".env") = true ∧
    files.read (Path.join dir ".env") = .ok bytes ∧
    some line ∈ EnvFile.lines bytes ∧ EnvFile.Targets name line

/-! ## The steps of a loading -/

/-- How a loading fails whose environment file cannot be carried out. -/
def envFailure (path : String) : EnvFile.Fault → Failure
  | .invalid => .settings (.invalidEnvFile path)
  | .nullCharacter => .abort .nullCharacter

theorem loadEnvironment_of_read {bytes : List UInt8} (env : Environment)
    (hholds : files.holds (Path.join dir ".env") = true)
    (hread : files.read (Path.join dir ".env") = .ok bytes) :
    loadEnvironment files dir env =
      (env.applyFile bytes).mapError (envFailure (Path.join dir ".env")) := by
  simp only [loadEnvironment, if_pos hholds, hread]
  cases env.applyFile bytes with
  | ok env' => rfl
  | error fault => cases fault <;> rfl

theorem loadEnvironment_of_not_holds (env : Environment)
    (hholds : files.holds (Path.join dir ".env") = false) :
    loadEnvironment files dir env = .ok env := by
  simp [loadEnvironment, hholds]

theorem loadEnvironment_of_read_error {fault : FileFault} (env : Environment)
    (hholds : files.holds (Path.join dir ".env") = true)
    (hread : files.read (Path.join dir ".env") = .error fault) :
    loadEnvironment files dir env =
      .error (.settings (.invalidEnvFile (Path.join dir ".env"))) := by
  simp only [loadEnvironment, if_pos hholds, hread]

/-- **An environment that is loaded has the assignments of the file made.** -/
theorem exists_assigned (h : loadEnvironment files dir env = .ok env') :
    ∃ as, Assigned files dir env as ∧ env' = env.setAll as := by
  cases hholds : files.holds (Path.join dir ".env") with
  | false =>
    rw [loadEnvironment_of_not_holds env hholds] at h
    cases h
    exact ⟨[], .absent hholds, rfl⟩
  | true =>
    cases hread : files.read (Path.join dir ".env") with
    | error fault =>
      rw [loadEnvironment_of_read_error env hholds hread] at h
      cases h
    | ok bytes =>
      rw [loadEnvironment_of_read env hholds hread, mapError_eq_ok_iff] at h
      obtain ⟨as, has, rfl⟩ := EnvFile.exists_assigns h
      exact ⟨as, .file hholds hread has, rfl⟩

theorem Assigned.isName {as : List (String × String)} (h : Assigned files dir env as) :
    ∀ a ∈ as, Environment.IsName a.1 := by
  cases h with
  | absent => simp
  | file _ _ has => exact has.isName

theorem override_of_inEnvironment (h : s.inEnvironment env = .ok s') :
    s.override env.get? = (s', .ok ()) := by
  unfold inEnvironment at h
  split at h
  · rename_i heq
    cases h
    exact heq
  · cases h

theorem Variable.isName_name (v : Variable) : Environment.IsName v.name := by
  cases v <;> exact ⟨by decide, by decide⟩

/-- **The settings that are loaded.** A variable has the value of the
environment or else that of the first assignment to it, and the settings
file counts where the variable is missing or empty. -/
theorem text_of_load (h : load files env dir asked = .ok s) :
    ∃ as base, Assigned files dir env as ∧ fromFile files dir asked = .ok base ∧
      ∀ v : Variable, s.text v =
        ((((env.get? v.name).or (as.lookup v.name)).filter (· ≠ "")).map v.setting).getD
          (base.text v) := by
  obtain ⟨⟨loaded, behind⟩, hwith, hloaded⟩ := map_eq_ok_iff.1 h
  obtain ⟨env', henv, hwith⟩ := bind_eq_ok_iff.1 hwith
  obtain ⟨base, hbase, hwith⟩ := bind_eq_ok_iff.1 hwith
  obtain ⟨s', hs, hwith⟩ := bind_eq_ok_iff.1 hwith
  cases hwith
  cases hloaded
  obtain ⟨as, has, rfl⟩ := exists_assigned henv
  refine ⟨as, base, has, hbase, fun v => ?_⟩
  rw [text_of_override (override_of_inEnvironment hs) v, value?,
    Environment.get?_setAll has.isName v.isName_name.2]

/-! ## Missing and empty -/

section Blurred

variable (h : env.blurred name = env'.blurred name)
include h

theorem value?_of_blurred_eq (n : String) : value? env.get? n = value? env'.get? n := by
  by_cases hn : n = name
  · have hvalue := Environment.getD_of_blurred_eq h n
    rw [value?, value?]
    cases henv : env.get? n <;> cases henv' : env'.get? n <;>
      simp_all [Option.filter_some]
  · rw [value?, value?, Environment.get?_of_blurred_eq h hn]

theorem inEnvironment_of_blurred_eq (s : Settings) :
    s.inEnvironment env = s.inEnvironment env' := by
  simp only [inEnvironment, override, overrideDataDir, overrideTexts, value?_of_blurred_eq h]

theorem map_blurred_loadEnvironment (hname : '=' ∉ name.toList)
    (hfile : ¬ Targeted files dir name) :
    (loadEnvironment files dir env).map (Environment.blurred name) =
      (loadEnvironment files dir env').map (Environment.blurred name) := by
  cases hholds : files.holds (Path.join dir ".env") with
  | false =>
    rw [loadEnvironment_of_not_holds env hholds, loadEnvironment_of_not_holds env' hholds]
    exact congrArg Except.ok h
  | true =>
    cases hread : files.read (Path.join dir ".env") with
    | error fault =>
      rw [loadEnvironment_of_read_error env hholds hread,
        loadEnvironment_of_read_error env' hholds hread]
    | ok bytes =>
      rw [loadEnvironment_of_read env hholds hread, loadEnvironment_of_read env' hholds hread]
      refine map_mapError_congr (EnvFile.map_blurred_applyFile hname h ?_) _
      exact fun line hline htargets => hfile ⟨bytes, line, hholds, hread, hline, htargets⟩

/-- **What is loaded does not tell a missing variable from an empty one**
that the environment file does not assign to. -/
theorem load_of_blurred_eq (hname : '=' ∉ name.toList) (hfile : ¬ Targeted files dir name)
    (asked : Option String) : load files env dir asked = load files env' dir asked := by
  unfold load loadWith
  refine map_bind_congr (map_blurred_loadEnvironment h hname hfile) fun after after' hafter => ?_
  refine map_bind_congr_right fun base => ?_
  rw [inEnvironment_of_blurred_eq hafter]
  cases base.inEnvironment after' <;> rfl

end Blurred

/-- **An empty variable counts as missing unless the environment file
assigns to it.** Where it does, the empty variable hides the assignment,
and the setting is that of the settings file. So the two differ in this
setting if the first assignment says anything else. -/
theorem load_insert_empty (v : Variable) (front back : List (String × String))
    (hunset : Environment.get? ⟨front ++ back⟩ v.name = none) :
    (¬ Targeted files dir v.name →
      load files ⟨front ++ (v.name, "") :: back⟩ dir asked = load files ⟨front ++ back⟩ dir asked) ∧
    ∀ s s', load files ⟨front ++ back⟩ dir asked = .ok s →
      load files ⟨front ++ (v.name, "") :: back⟩ dir asked = .ok s' →
      ∃ as base, Assigned files dir ⟨front ++ back⟩ as ∧ fromFile files dir asked = .ok base ∧
        s'.text v = base.text v ∧
        (s'.text v = s.text v ↔
          ∀ x, as.lookup v.name = some x → x ≠ "" → v.setting x = base.text v) := by
  have hempty : Environment.get? ⟨front ++ (v.name, "") :: back⟩ v.name = some "" := by
    rw [Environment.get?_append, Option.or_eq_none_iff] at hunset
    rw [Environment.get?_append, hunset.1, ← List.singleton_append, Environment.get?_append,
      Environment.get?_singleton_empty v.isName_name]
    simp
  refine ⟨fun hfile => ?_, fun s s' hs hs' => ?_⟩
  · exact load_of_blurred_eq (Environment.blurred_insert_empty v.isName_name hunset)
      v.isName_name.2 hfile asked
  · obtain ⟨as, base, has, hbase, htext⟩ := text_of_load hs
    obtain ⟨as', base', -, hbase', htext'⟩ := text_of_load hs'
    rw [hbase] at hbase'
    cases hbase'
    have hbase_text : s'.text v = base.text v := by
      rw [htext', hempty]
      rfl
    refine ⟨as, base, has, hbase, hbase_text, ?_⟩
    rw [hbase_text, htext, hunset, Option.none_or]
    cases hlookup : as.lookup v.name with
    | none => simp
    | some x =>
      by_cases hx : x = ""
      · simp [hx, Option.filter_some]
      · simp [hx, Option.filter_some, eq_comm]

/-- A directory `d` with nothing but an environment file. -/
def envFileOnly (content : String) : Files :=
  ⟨(· == "d/.env"), fun path =>
    if path = "d/.env" then .ok (Text.bytes content) else .error .notFound⟩

/-- A directory whose environment file sets the data directory. -/
def homeTables : Files :=
  envFileOnly "export CSVQL_DATA_DIR=$HOME/t # tables\n"

/-- The variable that the file does not set may as well be empty, and the
one that it sets may not. -/
theorem load_insert_empty_home :
    load homeTables ⟨[("HOME", "h"), ("CSVQL_LOG", "")]⟩ "d" none =
        load homeTables ⟨[("HOME", "h")]⟩ "d" none ∧
      load homeTables ⟨[("HOME", "h")]⟩ "d" none = .ok { dataDir := "h/t" } ∧
      load homeTables ⟨[("CSVQL_DATA_DIR", ""), ("HOME", "h")]⟩ "d" none = .ok {} ∧
      ∃ (as : List (String × String)) (base : Settings),
        Assigned homeTables "d" ⟨[("HOME", "h")]⟩ as ∧
        fromFile homeTables "d" none = .ok base ∧ base.dataDir = "." ∧
        ¬ ∀ x, as.lookup "CSVQL_DATA_DIR" = some x → x ≠ "" → x = base.dataDir := by
  have hset : load homeTables ⟨[("HOME", "h")]⟩ "d" none = .ok { dataDir := "h/t" } := by
    decide +kernel
  have hempty : load homeTables ⟨[("CSVQL_DATA_DIR", ""), ("HOME", "h")]⟩ "d" none = .ok {} := by
    decide +kernel
  refine ⟨(load_insert_empty .logFilter [("HOME", "h")] [] (by decide)).1 ?_, hset, hempty, ?_⟩
  · rintro ⟨bytes, line, -, hread, hline, rest, htarget⟩
    cases hread
    have hlines : EnvFile.lines (Text.bytes "export CSVQL_DATA_DIR=$HOME/t # tables\n") =
        [some "export CSVQL_DATA_DIR=$HOME/t ".toList] := by
      decide +kernel
    have hname : EnvFile.readTarget (EnvFile.trimmed "export CSVQL_DATA_DIR=$HOME/t ".toList) =
        some ("CSVQL_DATA_DIR".toList, "$HOME/t".toList) := by
      decide +kernel
    rw [hlines, List.mem_singleton] at hline
    cases hline
    rw [hname] at htarget
    have hother : "CSVQL_DATA_DIR".toList = "CSVQL_LOG".toList :=
      congrArg Prod.fst (Option.some.inj htarget)
    exact absurd hother (by decide)
  · obtain ⟨as, base, has, hbase, htext, hiff⟩ :=
      (load_insert_empty .dataDir [] [("HOME", "h")] (by decide)).2 _ _ hset hempty
    exact ⟨as, base, has, hbase, htext.symm, fun hall => absurd (hiff.2 hall) (by decide)⟩

/-- An empty variable is not ignored where the environment file sets it. -/
theorem load_ne_load_of_empty :
    Environment.get? ⟨[]⟩ Variable.dataDir.name = none ∧
      load (envFileOnly "CSVQL_DATA_DIR=tables\n") ⟨[]⟩ "d" none =
        .ok { dataDir := "tables" } ∧
      load (envFileOnly "CSVQL_DATA_DIR=tables\n") ⟨[(Variable.dataDir.name, "")]⟩ "d" none =
        .ok { dataDir := "." } ∧
      load (envFileOnly "CSVQL_DATA_DIR=tables\n") ⟨[(Variable.dataDir.name, "")]⟩ "d" none ≠
        load (envFileOnly "CSVQL_DATA_DIR=tables\n") ⟨[]⟩ "d" none := by
  decide +kernel

end Settings

end TableQuery
