import TableQuery.Main
import TableQuery.Output.ClauseDump
import TableQuery.Output.Json
import TableQuery.Output.Result
import TableQuery.Proofs.CommandLine.Precedence
import TableQuery.Proofs.Csv.Table
import TableQuery.Proofs.Csv.Written
import TableQuery.Proofs.Outcome
import TableQuery.Proofs.Output.ClauseDump
import TableQuery.Proofs.Output.Json.Print
import TableQuery.Proofs.Output.Json.Read
import TableQuery.Proofs.Output.Lines
import TableQuery.Proofs.Output.Rows
import TableQuery.Proofs.Query.Answer
import TableQuery.Proofs.Query.Column
import TableQuery.Proofs.Query.FailurePoint
import TableQuery.Proofs.Query.Filter
import TableQuery.Proofs.Query.Grammar
import TableQuery.Proofs.Query.Keyword
import TableQuery.Proofs.Query.LastClause
import TableQuery.Proofs.Query.LetterCase
import TableQuery.Proofs.Query.Operator
import TableQuery.Proofs.Query.Printed
import TableQuery.Proofs.Query.Projection
import TableQuery.Proofs.Query.Refusal
import TableQuery.Proofs.Query.Regular
import TableQuery.Proofs.Query.RowLimit
import TableQuery.Proofs.Query.Scan
import TableQuery.Proofs.Query.Separation
import TableQuery.Proofs.Query.Session
import TableQuery.Proofs.Query.Value
import TableQuery.Proofs.Run
import TableQuery.Proofs.Settings.Environment
import TableQuery.Proofs.Settings.Load
import TableQuery.Proofs.Settings.Override
import TableQuery.Proofs.Storage.Containment
import TableQuery.Proofs.Storage.Path
import TableQuery.Proofs.Storage.TableFolder
import TableQuery.Proofs.Text.Capitals
import TableQuery.Proofs.Text.Quoted
import TableQuery.Proofs.Text.Uppercase
import TableQuery.Query.Grammar
import TableQuery.Query.Session
import TableQuery.Storage.Tree
import TableQuery.Text.Utf8
