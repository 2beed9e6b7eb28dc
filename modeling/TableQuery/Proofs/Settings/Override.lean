import TableQuery.Settings.Environment
import TableQuery.Settings.Load

/-!
# Overrides — one after the other

Whether an overriding ends well is up to the variable of the format alone
(`override_snd`), and if it does, each setting is what its variable says
(`text_of_override`). Settings are told apart by these four texts
(`eq_of_text_eq`). So two overridings are one by a lookup that prefers the
second, the same one again changes nothing, and one that fails has come no
further than the data directory (`override_override`).
-/

namespace TableQuery

/-! ## Variables

Four settings can be overridden, each by a variable of its own. All of them
are looked at as texts here, so that one law covers the four: a setting
behind the overriding is what its variable says, and where that says
nothing the setting is as before (`Settings.text_of_override`). -/

namespace OutputFormat

/-- The name of a format. -/
def name : OutputFormat → String
  | text => "text"
  | csv => "csv"

theorem named?_eq_some_iff {s : String} {f : OutputFormat} : named? s = some f ↔ s = f.name := by
  constructor
  · intro h
    unfold named? at h
    split at h
    · cases h
      rfl
    · cases h
      rfl
    · cases h
  · rintro rfl
    cases f <;> rfl

/-- A name in any case stands for the format with that name. -/
theorem name_of_ofName {s : String} {f : OutputFormat} (h : ofName s = .ok f) :
    f.name = Text.asciiLower s := by
  unfold ofName at h
  simp only at h
  split at h
  · rename_i hnamed
    cases h
    exact (named?_eq_some_iff.1 hnamed).symm
  · cases h

/-- Only a name of a format, in any ASCII case, stands for one. -/
theorem ofName_eq_error_iff {name : String} {e : SettingsError} :
    ofName name = .error e ↔
      Text.sameWord name "text" = false ∧ Text.sameWord name "csv" = false ∧
        e = .unknownFormat (Text.asciiLower name) := by
  have htext : Text.sameWord name "text" = true ↔ Text.asciiLower name = "text" :=
    Text.sameWord_iff
  have hcsv : Text.sameWord name "csv" = true ↔ Text.asciiLower name = "csv" :=
    Text.sameWord_iff
  rw [← Bool.not_eq_true, ← Bool.not_eq_true, htext, hcsv, ofName]
  cases hnamed : named? (Text.asciiLower name) with
  | some format =>
    rw [named?_eq_some_iff.1 hnamed]
    cases format <;> simp [OutputFormat.name]
  | none =>
    have hother (format : OutputFormat) : Text.asciiLower name ≠ format.name := by
      intro hname
      rw [named?_eq_some_iff.2 hname] at hnamed
      cases hnamed
    have hneText : Text.asciiLower name ≠ "text" := hother .text
    have hneCsv : Text.asciiLower name ≠ "csv" := hother .csv
    simp [hneText, hneCsv, eq_comm]

end OutputFormat

namespace Settings

/-- The variables that override a setting. -/
inductive Variable
  | dataDir
  | format
  | separator
  | logFilter
  deriving DecidableEq, Repr

namespace Variable

/-- The name of a variable in an environment. -/
def name : Variable → String
  | dataDir => dataDirVariable
  | format => formatVariable
  | separator => separatorVariable
  | logFilter => logVariable

/-- The setting that a value stands for. Only the name of a format may be
written in another case. -/
def setting : Variable → String → String
  | format => Text.asciiLower
  | _ => id

end Variable

/-- The setting that a variable overrides, as a text. -/
def text (s : Settings) : Variable → String
  | .dataDir => s.dataDir
  | .format => s.output.format.name
  | .separator => s.output.separator
  | .logFilter => s.logFilter

variable {s s' s'' : Settings} {f g lookup : String → Option String} {name value : String}
variable {e : SettingsError}

/-- **A setting behind the overriding** is what its variable says, or the
setting before. -/
theorem text_of_override (h : s.override lookup = (s', .ok ())) (v : Variable) :
    s'.text v = ((value? lookup v.name).map v.setting).getD (s.text v) := by
  unfold override at h
  simp only at h
  split at h
  · rename_i hformat
    cases h
    cases v with
    | format => simp [text, Variable.name, hformat, overrideTexts, overrideDataDir]
    | _ => simp [text, Variable.name, Variable.setting, overrideTexts, overrideDataDir]
  · rename_i name hformat
    split at h
    · rename_i f hname
      cases h
      cases v with
      | format =>
        simp [text, Variable.name, Variable.setting, hformat, overrideTexts,
          OutputFormat.name_of_ofName hname]
      | _ => simp [text, Variable.name, Variable.setting, overrideTexts, overrideDataDir]
    · cases h

/-! ## Lookups -/

/-- The variable is present with the value, which is not empty. -/
def Says (lookup : String → Option String) (name value : String) : Prop :=
  lookup name = some value ∧ value ≠ ""

theorem value?_eq_some_iff : value? lookup name = some value ↔ Says lookup name value := by
  rw [value?, Option.filter_eq_some_iff, decide_eq_true_iff]
  rfl

/-- What the first lookup says, and what the second one has where the first
says nothing. -/
def preferring (g f : String → Option String) (name : String) : Option String :=
  (value? g name).or (f name)

theorem value?_preferring (g f : String → Option String) (name : String) :
    value? (preferring g f) name = (value? g name).or (value? f name) := by
  cases hg : value? g name with
  | none => rw [value?, preferring, hg, Option.none_or, Option.none_or, value?]
  | some v =>
    have hne : v ≠ "" := (value?_eq_some_iff.1 hg).2
    rw [Option.some_or, value?_eq_some_iff, Says, preferring, hg]
    exact ⟨rfl, hne⟩

/-! ## One overriding -/

/-- Settings with the same texts are the same. -/
theorem eq_of_text_eq (h : ∀ v, s.text v = s'.text v) : s = s' := by
  obtain ⟨dataDir, logFilter, format, separator⟩ := s
  obtain ⟨dataDir', logFilter', format', separator'⟩ := s'
  have hformat : format = format' := by
    have hname : format.name = format'.name := h .format
    exact Option.some.inj
      ((OutputFormat.named?_eq_some_iff.2 rfl).symm.trans (OutputFormat.named?_eq_some_iff.2 hname))
  cases h .dataDir
  cases h .logFilter
  cases h .separator
  cases hformat
  rfl

/-- **How an overriding ends** is up to the variable of the format. -/
theorem override_snd (s : Settings) (lookup : String → Option String) :
    (s.override lookup).2 = (value? lookup formatVariable).elim (.ok ()) fun name =>
      (OutputFormat.ofName name).map fun _ => () := by
  unfold override
  cases value? lookup formatVariable with
  | none => rfl
  | some name =>
    simp only [Option.elim_some]
    cases OutputFormat.ofName name <;> rfl

/-- It fails if the variable says what is no name of a format. -/
theorem override_eq_error_iff : (s.override lookup).2 = .error e ↔
    ∃ name, Says lookup formatVariable name ∧ Text.sameWord name "text" = false ∧
      Text.sameWord name "csv" = false ∧ e = .unknownFormat (Text.asciiLower name) := by
  simp only [override_snd, ← value?_eq_some_iff, ← OutputFormat.ofName_eq_error_iff]
  cases value? lookup formatVariable with
  | none => simp
  | some name => cases hname : OutputFormat.ofName name <;> simp [Except.map, hname]

/-- What is left behind a failure: the data directory has been overridden
before the format was looked at. -/
theorem override_of_error (h : (s.override lookup).2 = .error e) :
    (s.override lookup).1 = s.overrideDataDir lookup := by
  unfold override at h ⊢
  cases hformat : value? lookup formatVariable with
  | none =>
    rw [hformat] at h
    cases h
  | some name =>
    rw [hformat] at h
    cases hname : OutputFormat.ofName name with
    | ok format =>
      simp only [hname] at h
      cases h
    | error e' => simp only [hname]

theorem dataDir_overrideDataDir :
    (∀ dir, Says lookup dataDirVariable dir → (s.overrideDataDir lookup).dataDir = dir) ∧
      ((∀ dir, ¬ Says lookup dataDirVariable dir) →
        (s.overrideDataDir lookup).dataDir = s.dataDir) := by
  simp only [← value?_eq_some_iff, overrideDataDir]
  cases value? lookup dataDirVariable <;> simp

/-! ## Two overridings -/

/-- **Two overridings that end well are one** by the lookup that prefers
the second. -/
theorem override_preferring (hf : s.override f = (s', .ok ()))
    (hg : s'.override g = (s'', .ok ())) : s.override (preferring g f) = (s'', .ok ()) := by
  have hends : (s.override (preferring g f)).2 = .ok () := by
    -- the name of the format is one of the two, and both were read
    have hfirst : (s.override f).2 = .ok () := congrArg Prod.snd hf
    have hsecond : (s'.override g).2 = .ok () := congrArg Prod.snd hg
    rw [override_snd] at hfirst hsecond ⊢
    rw [value?_preferring]
    cases hformat : value? g formatVariable with
    | none => exact hfirst
    | some name =>
      rw [hformat] at hsecond
      exact hsecond
  have hboth : s.override (preferring g f) = ((s.override (preferring g f)).1, .ok ()) :=
    Prod.ext rfl hends
  have hsame : (s.override (preferring g f)).1 = s'' := by
    refine eq_of_text_eq fun v => ?_
    rw [text_of_override hboth, text_of_override hg, text_of_override hf, value?_preferring]
    cases value? g v.name <;> rfl
  rw [hboth, hsame]

/-- **An overriding made again changes nothing** and ends as before, also
where it fails. -/
theorem override_again (s : Settings) (f : String → Option String) :
    (s.override f).1.override f = s.override f := by
  have hagain : ((s.override f).1.override f).2 = (s.override f).2 := by
    rw [override_snd, override_snd]
  refine Prod.ext ?_ hagain
  cases hends : (s.override f).2 with
  | error e =>
    rw [override_of_error (hagain.trans hends), override_of_error hends]
    cases hdir : value? f dataDirVariable <;> simp [overrideDataDir, hdir]
  | ok _ =>
    have hfirst : s.override f = ((s.override f).1, .ok ()) := Prod.ext rfl hends
    have hsecond : (s.override f).1.override f = (((s.override f).1.override f).1, .ok ()) :=
      Prod.ext rfl (hagain.trans hends)
    refine eq_of_text_eq fun v => ?_
    rw [text_of_override hsecond, text_of_override hfirst]
    cases value? f v.name <;> rfl

/-- **Overridings compose, and one that fails changes one setting only.**
Two that end well are one by the lookup that prefers the second, and the
same one again is no other. An overriding fails exactly if the variable of
the format says what is no name of a format, and then all settings are as
before but for the data directory, which is the one of its variable if that
says something. -/
theorem override_override (s : Settings) (f g : String → Option String) :
    (∀ s' s'', s.override f = (s', .ok ()) → s'.override g = (s'', .ok ()) →
      s.override (preferring g f) = (s'', .ok ())) ∧
    (s.override f).1.override f = s.override f ∧
    (∀ e, (s.override f).2 = .error e ↔
      ∃ name, Says f formatVariable name ∧ Text.sameWord name "text" = false ∧
        Text.sameWord name "csv" = false ∧ e = .unknownFormat (Text.asciiLower name)) ∧
    ∀ s' e, s.override f = (s', .error e) →
      s'.output = s.output ∧ s'.logFilter = s.logFilter ∧
      (∀ dir, Says f dataDirVariable dir → s'.dataDir = dir) ∧
      ((∀ dir, ¬ Says f dataDirVariable dir) → s'.dataDir = s.dataDir) := by
  refine ⟨fun s' s'' hf hg => override_preferring hf hg, override_again s f,
    fun e => override_eq_error_iff, fun s' e h => ?_⟩
  have hleft : s' = s.overrideDataDir f := by
    have hstate := override_of_error (congrArg Prod.snd h)
    rwa [h] at hstate
  rw [hleft]
  exact ⟨rfl, rfl, dataDir_overrideDataDir⟩

/-- Environments, the second of which hides a part of the first and has an
empty variable. -/
def csvTables : Environment :=
  ⟨[(dataDirVariable, "tables"), (formatVariable, "CSV"), (logVariable, "trace")]⟩

@[inherit_doc csvTables] def textBars : Environment :=
  ⟨[(formatVariable, "Text"), (separatorVariable, "|"), (logVariable, "")]⟩

/-- An environment with a format that there is not. -/
def xmlTables : Environment :=
  ⟨[(dataDirVariable, "tables"), (formatVariable, "xml"), (separatorVariable, "|")]⟩

/-- Two overridings that end well, and one that fails. -/
theorem override_override_mixed :
    (defaults.override csvTables.get? = (⟨"tables", "trace", ⟨.csv, ", "⟩⟩, .ok ()) ∧
      override textBars.get? ⟨"tables", "trace", ⟨.csv, ", "⟩⟩ =
        (⟨"tables", "trace", ⟨.text, "|"⟩⟩, .ok ()) ∧
      defaults.override (preferring textBars.get? csvTables.get?) =
        (⟨"tables", "trace", ⟨.text, "|"⟩⟩, .ok ())) ∧
    ∃ s' e, defaults.override xmlTables.get? = (s', .error e) ∧
      s'.output = defaults.output ∧ s'.logFilter = defaults.logFilter ∧ s'.dataDir = "tables" := by
  have hcsv : defaults.override csvTables.get? =
      (⟨"tables", "trace", ⟨.csv, ", "⟩⟩, .ok ()) := by rfl
  have htext : override textBars.get? ⟨"tables", "trace", ⟨.csv, ", "⟩⟩ =
      (⟨"tables", "trace", ⟨.text, "|"⟩⟩, .ok ()) := by rfl
  have hxml : defaults.override xmlTables.get? =
      ({ defaults with dataDir := "tables" }, .error (.unknownFormat "xml")) := by rfl
  obtain ⟨hcompose, -, -, -⟩ := override_override defaults csvTables.get? textBars.get?
  obtain ⟨-, -, -, hfailed⟩ := override_override defaults xmlTables.get? xmlTables.get?
  obtain ⟨houtput, hlog, hdir, -⟩ := hfailed _ _ hxml
  refine ⟨⟨hcsv, htext, hcompose _ _ hcsv htext⟩, _, _, hxml, houtput, hlog, ?_⟩
  exact hdir "tables" ⟨rfl, by decide⟩

end Settings

end TableQuery
