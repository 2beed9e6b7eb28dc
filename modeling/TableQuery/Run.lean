import TableQuery.Failure
import TableQuery.Log.Event
import TableQuery.Output.ClauseDump
import TableQuery.Output.Result
import TableQuery.Query.Session
import TableQuery.Settings.Load
import TableQuery.Storage.Tree

/-!
# Runs — one query from text to output

What a run writes and how it ends, and which events there are on its way.
-/

namespace TableQuery

/-! ## Runs

The query is cut into tokens and read; its clauses are dumped if that was
asked for; then it is executed and the result written. A run stops at its
first failure, and what was written before stays. -/

/-- A query to run. `dump` says how to dump its clauses first, if at
all. -/
structure Request where
  query : String
  settings : Settings
  dump : Option DumpFormat := none
  deriving DecidableEq, Repr

namespace Request

/-- Where the tables of a request come from. -/
def source (files : Files) (r : Request) : TableSource :=
  TableFolder.source files r.settings.dataDir

/-- The writes of the clause dump. -/
def dumpScript (r : Request) (cs : List Clause) : Output.Script :=
  match r.dump with
  | none => ⟨[], none⟩
  | some format => Output.dumpScript format cs

/-- The writes of a result. -/
def resultScript (r : Request) (result : ResultSet) : Output.Script :=
  Output.resultScript r.settings.output.format r.settings.output.separator result

end Request

/-- Runs a script of writes as part of a run. -/
def Output.Script.perform (script : Script) (s : Sink) : Sink × Except Failure Unit :=
  let (s, outcome) := script.run s
  (s, outcome.mapError .output)

/-- Runs a request: the output after it, and how it ended. -/
def run (files : Files) (r : Request) (s : Output.Sink) : Output.Sink × Except Failure Unit :=
  match parseQuery r.query with
  | .error e => (s, .error (.query e))
  | .ok cs =>
    match (r.dumpScript cs).perform s with
    | (s, .error e) => (s, .error e)
    | (s, .ok ()) =>
      match execute (r.source files) cs with
      | .error e => (s, .error (.query e))
      | .ok result => (r.resultScript result).perform s

/-! ## Trails

What happens in a run up to its end or its first failure, in order. The
clauses before the one that cannot be read count as read, and the tables
before the clause that cannot be carried out as loaded. -/

namespace Log

/-- Whether a clause alone can be carried out. -/
def feasible (source : TableSource) (c : Clause) : Bool :=
  (Plan.extend source {} c).isOk

/-- The events of a clause that is carried out. -/
def clauseTrail : Clause → List Event
  | .source _ => [.fileRead, .tableReady]
  | _ => []

/-- The events of an execution. -/
def executionTrail (source : TableSource) (cs : List Clause) : List Event :=
  (cs.takeWhile (feasible source)).flatMap clauseTrail ++
    if (execute source cs).isOk then [.executed] else []

/-- The events of a list of tokens. -/
def tokenTrail (source : TableSource) (ts : List Token) : List Event :=
  match Clause.readAll ts with
  | (cs, some _) => cs.map fun _ => .clauseRead
  | (cs, none) => (cs.map fun _ => .clauseRead) ++ .parsed :: executionTrail source cs

end Log

/-- The events of a request whose output is never full. -/
def Request.trail (files : Files) (r : Request) : List Log.Event :=
  .tokensFound :: .tokenized :: Log.tokenTrail (r.source files) (tokenize r.query)

end TableQuery
