import TableQuery.CommandLine.Arguments
import TableQuery.Log.Filter
import TableQuery.Run
import TableQuery.Settings.Load

/-!
# Commands — from arguments to what a process shows

A command is carried out on files and an environment that are given. Which
files it may ask for is known beforehand.
-/

namespace TableQuery

namespace CommandLine

/-! ## Commands

The settings are found first, then the arguments override them, and the
log starts. A failure before that leaves no log, unless it is an abort:
of that only a line of the log tells. -/

/-- What a process shows. -/
structure Outcome where
  output : List UInt8
  log : List String
  result : Except Failure Unit

namespace Outcome

/-- The exit status. -/
def exitCode (o : Outcome) : Nat :=
  match o.result with
  | .ok () => 0
  | .error f => f.exitCode

/-- The line that reports a failure, where `detail` says what is wrong in
the text of an invalid file. -/
def errorLine? (o : Outcome) (detail : String) : Option String :=
  match o.result with
  | .ok () => none
  | .error (.abort _) => none
  | .error f => some ("error: " ++ f.report detail)

/-- The outcome of a command that fails before its log starts. -/
def ofFailure : Failure → Outcome
  | .abort cause => ⟨[], [cause.message], .error (.abort cause)⟩
  | f => ⟨[], [], .error f⟩

end Outcome

namespace Arguments

/-- The settings with those of the arguments on top. -/
def override (a : Arguments) (s : Settings) : Settings :=
  { s with
    dataDir := a.dataDir.getD s.dataDir
    output.format := a.format.getD s.output.format }

/-- The request under settings that were found. -/
def request (a : Arguments) (s : Settings) : Request :=
  ⟨a.query, a.override s, a.dump⟩

/-- The events of a command whose settings are found. -/
def trail (a : Arguments) (files : Files) (s : Settings) : List Log.Event :=
  .configured :: (a.request s).trail files

/-- Carries out a command in the directory `dir`. -/
def carryOut (a : Arguments) (files : Files) (env : Environment) (dir : String) : Outcome :=
  match Settings.loadWith files env dir a.settingsFile with
  | .error f => .ofFailure f
  | .ok (s, env) =>
    match Log.Setup.choose (env.get? Log.filterVariable) s.logFilter with
    | none => .ofFailure (.abort .splitCharacter)
    | some setup =>
      let (sink, result) := run files (a.request s) {}
      ⟨sink.accepted, setup.log (a.trail files s), result⟩

end Arguments

end CommandLine

/-! ## Snapshots

A command reads the files around it once and then works on what was seen. -/

/-- What reading some paths gave. -/
abbrev Snapshot :=
  List (String × Except FileFault (List UInt8))

namespace Snapshot

/-- Whether something lies at a path whose reading ended so. -/
def isThere : Except FileFault (List UInt8) → Bool
  | .ok _ => true
  | .error .isDirectory => true
  | .error (.other _) => true
  | .error _ => false

/-- The files that were seen, and no others. -/
def files (s : Snapshot) : Files :=
  ⟨fun path => (s.lookup path).any isThere, fun path => (s.lookup path).getD (.error .notFound)⟩

end Snapshot

/-- The paths that the settings for a directory may be read from. -/
def Settings.paths (dir : String) (asked : Option String) : List String :=
  [Path.join dir ".env", asked.getD (Path.join dir defaultFile)]

/-- The paths of the tables that a request may read. -/
def Request.paths (r : Request) : List String :=
  ((Clause.readAll (tokenize r.query)).1.filterMap Clause.table?).map
    (TableFolder.tablePath r.settings.dataDir)

end TableQuery
