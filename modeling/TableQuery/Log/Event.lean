import TableQuery.Text.Character

/-!
# Events — what a run can log

An event has a level, the part of the program that it comes from, and
named fields. Levels are ordered by how much they let through.
-/

namespace TableQuery

namespace Log

/-- How much is logged, or how important an event is. No event has the
level `off`. -/
inductive Level
  | off
  | error
  | warn
  | info
  | debug
  | trace
  deriving DecidableEq, Repr

namespace Level

/-- Every level, the most silent one first. -/
def all : List Level :=
  [off, error, warn, info, debug, trace]

/-- The number of a level, which grows with what it lets through. -/
def rank : Level → Nat
  | off => 0
  | error => 1
  | warn => 2
  | info => 3
  | debug => 4
  | trace => 5

def name : Level → String
  | off => "OFF"
  | error => "ERROR"
  | warn => "WARN"
  | info => "INFO"
  | debug => "DEBUG"
  | trace => "TRACE"

/-- The number that a text stands for, with or without a plus sign. -/
def number? (text : String) : Option Nat :=
  match text.toList with
  | '+' :: ds => Text.natOfDigits? ds
  | ds => Text.natOfDigits? ds

/-- The level with the given number, or with the given name in any ASCII
case. -/
def ofText? (text : String) : Option Level :=
  match number? text with
  | some n => all[n]?
  | none => all.find? fun l => Text.sameWord l.name text

end Level

/-- Something that happened in a run. -/
structure Event where
  level : Level
  /-- The part of the program, by the name that filters know it by. -/
  part : String
  fields : List String
  message : String
  deriving DecidableEq, Repr

namespace Event

/-- The settings are complete. -/
def configured : Event :=
  ⟨.debug, "csvql", ["config", "data_dir", "format", "message"], "configuration loaded"⟩

/-- The query has been cut into tokens. -/
def tokensFound : Event :=
  ⟨.trace, "csvql_core::lexer", ["count", "message"], "tokenized query"⟩

@[inherit_doc tokensFound] def tokenized : Event :=
  ⟨.debug, "csvql", ["tokens", "message"], "query tokenized"⟩

/-- One clause has been read. -/
def clauseRead : Event :=
  ⟨.trace, "csvql_core::parser", ["clause", "message"], "parsed clause"⟩

/-- All clauses have been read. -/
def parsed : Event :=
  ⟨.debug, "csvql", ["clauses", "message"], "query parsed"⟩

/-- A table has been read from its file. -/
def fileRead : Event :=
  ⟨.debug, "csvql::loader", ["path", "rows", "message"], "loaded csv table"⟩

/-- A table is ready for the query. -/
def tableReady : Event :=
  ⟨.debug, "csvql_core::executor::local", ["table", "rows", "columns", "message"], "table loaded"⟩

/-- The answer is complete. -/
def executed : Event :=
  ⟨.debug, "csvql_core::executor::local", ["matched", "message"], "query executed"⟩

/-- The event as a line of a log, without its time and the values of its
fields. -/
def line (e : Event) : String :=
  e.level.name ++ " " ++ e.part ++ ": " ++ e.message

end Event

end Log

end TableQuery
