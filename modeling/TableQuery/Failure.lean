/-!
# Failures

Everything that can end a run, with its message and exit status: a query
that has no answer, settings that cannot be found, a file that cannot be
read and an output that breaks off.
-/

namespace TableQuery

/-! ## Files

Why a file could not be read or an output not be written. -/

/-- A failed access to a file or an output. -/
inductive FileFault
  | notFound
  | notDirectory
  | isDirectory
  | nameTooLong
  | nullInName
  | notText
  | outputFull
  /-- Any other failure, in the words of the system. -/
  | other (message : String)
  deriving DecidableEq, Repr

def FileFault.message : FileFault → String
  | notFound => "No such file or directory (os error 2)"
  | notDirectory => "Not a directory (os error 20)"
  | isDirectory => "Is a directory (os error 21)"
  | nameTooLong => "File name too long (os error 36)"
  | nullInName => "file name contained an unexpected NUL byte"
  | notText => "stream did not contain valid UTF-8"
  | outputFull => "sink full"
  | other message => message

namespace Csv

/-! ## Records

Why a file of records is no table, with the place of the record. -/

/-- Where a record starts: records, lines and bytes before it. Lines are
counted from one. -/
structure Position where
  record : Nat
  line : Nat
  byte : Nat
  deriving DecidableEq, Repr

/-- What is wrong with a record. -/
inductive Fault
  /-- The record has another number of fields than the first one. -/
  | width (start : Position) (found expected : Nat)
  /-- The bytes of a field stop being text at an index. -/
  | notText (start : Position) (field index : Nat)
  deriving DecidableEq, Repr

/-- How two widths differ, in words. -/
def widthMessage (found expected : Nat) : String :=
  "found record with " ++ toString found ++ " fields, but the previous record has " ++
    toString expected ++ " fields"

def Fault.message : Fault → String
  | width start found expected =>
    "CSV error: record " ++ toString start.record ++ " (line: " ++ toString start.line ++
      ", byte: " ++ toString start.byte ++ "): " ++ widthMessage found expected
  | notText start field index =>
    "CSV parse error: record " ++ toString start.record ++ " (line " ++ toString start.line ++
      ", field: " ++ toString field ++ ", byte: " ++ toString start.byte ++
      "): invalid utf-8: invalid UTF-8 in field " ++ toString field ++ " near byte index " ++
      toString index

end Csv

namespace Output

/-! ## Outputs

Why an output broke off, by what was being written. -/

/-- A failed output. -/
inductive Fault
  | text (fault : FileFault)
  | records (fault : FileFault)
  /-- A record has another number of fields than the first one. -/
  | width (found expected : Nat)
  | json (fault : FileFault)
  deriving DecidableEq, Repr

namespace Fault

/-- What went wrong while writing, without the kind of output. -/
def cause : Fault → String
  | text fault => fault.message
  | records fault => fault.message
  | width found expected => "CSV error: " ++ Csv.widthMessage found expected
  | json fault => fault.message

def message : Fault → String
  | text fault => "IO error: " ++ fault.message
  | records fault => "CSV error: " ++ fault.message
  | width found expected => "CSV error: " ++ (width found expected).cause
  | json fault => "JSON error: " ++ fault.message

end Fault

end Output

/-! ## Queries -/

/-- What a clause that breaks off still needs. -/
inductive MissingPart
  /-- A `WHERE` without its column, operator and value. -/
  | condition
  /-- A `LIMIT` without its count. -/
  | count
  deriving DecidableEq, Repr

/-- Why a source cannot be read as a table. -/
inductive SourceFault
  | noHeader
  | file (fault : FileFault)
  | records (fault : Csv.Fault)
  deriving DecidableEq, Repr

/-- Why a query has no answer. -/
inductive QueryError
  | incomplete (near : String) (part : MissingPart)
  | unexpectedToken (text : String)
  | sourceNotFound (source : String)
  | malformedSource (source : String) (fault : SourceFault)
  | missingFrom
  | unknownColumn (column : String)
  | invalidLimit (count : String)
  | unsupportedOperator (operator : String)
  deriving DecidableEq, Repr

/-- What the clause requires, in words. -/
def MissingPart.message : MissingPart → String
  | condition => "WHERE clause requires a column, an operator and a value"
  | count => "LIMIT clause requires a value"

def SourceFault.message : SourceFault → String
  | noHeader => "source has no header row"
  | file fault => fault.message
  | records fault => fault.message

namespace QueryError

def message : QueryError → String
  | incomplete near part => "Syntax error near '" ++ near ++ "': " ++ part.message
  | unexpectedToken text => "Unexpected token: " ++ text
  | sourceNotFound source => "Source not found: " ++ source
  | malformedSource source fault => "Malformed source '" ++ source ++ "': " ++ fault.message
  | missingFrom => "No FROM clause found"
  | unknownColumn column => "Column " ++ column ++ " not found in table"
  | invalidLimit count => "Invalid LIMIT value: " ++ count
  | unsupportedOperator operator =>
    "Unsupported operator '" ++ operator ++ "': only equality (=) is supported in WHERE clause"

/-- The exit status of a process that fails with the error, one for each
kind of error. -/
def exitCode : QueryError → Nat
  | incomplete _ _ => 10
  | unexpectedToken _ => 11
  | sourceNotFound _ => 20
  | malformedSource _ _ => 21
  | missingFrom => 30
  | unknownColumn _ => 31
  | invalidLimit _ => 32
  | unsupportedOperator _ => 33

end QueryError

/-! ## Settings -/

/-- Why there are no settings. -/
inductive SettingsError
  /-- The name of the format, in small ASCII letters. -/
  | unknownFormat (name : String)
  | invalidEnvFile (path : String)
  | missingFile (path : String)
  | invalidFile
  deriving DecidableEq, Repr

namespace SettingsError

/-- The error in words. What is wrong in the text of an invalid file is for
the reader of the file to say, in `detail`. -/
def describe (detail : String) : SettingsError → String
  | unknownFormat name => "Configuration error: unknown output format '" ++ name ++ "'"
  | invalidEnvFile path => "Configuration error: invalid env file " ++ path ++ ": " ++ detail
  | missingFile path => "Configuration error: configuration file not found: " ++ path
  | invalidFile => "Configuration error: " ++ detail

end SettingsError

/-! ## Runs -/

/-- A defect that ends the process at once. -/
inductive Abort
  /-- A variable cannot hold a null character. -/
  | nullCharacter
  /-- A rule of the log filter would be cut inside a character. -/
  | splitCharacter
  deriving DecidableEq, Repr

/-- The defect in words. A process that ends so also says where in its code
it was. -/
def Abort.message : Abort → String
  | nullCharacter => "a variable cannot hold a null character"
  | splitCharacter => "a rule of the log filter is cut inside a character"

/-- Why a run failed. -/
inductive Failure
  | query (error : QueryError)
  | settings (error : SettingsError)
  /-- A settings file that cannot be read. -/
  | file (fault : FileFault)
  | output (fault : Output.Fault)
  | abort (cause : Abort)
  deriving DecidableEq, Repr

namespace Failure

/-- The failure in words, where `detail` says what is wrong in the text of
an invalid file. -/
def message (f : Failure) (detail : String := "") : String :=
  match f with
  | query error => error.message
  | settings error => error.describe detail
  | file fault => "IO error: " ++ fault.message
  | output fault => fault.message
  | abort cause => cause.message

/-- The exit status of a process that ends in the failure. -/
def exitCode : Failure → Nat
  | query error => error.exitCode
  | settings _ => 40
  | file _ => 74
  | output _ => 74
  | abort _ => 101

/-- What lies behind a failure of files and outputs, if it is not the
whole message already. -/
def causes : Failure → List String
  | query _ => []
  | settings _ => []
  | file fault => [fault.message]
  | output (.records fault) => [fault.message, fault.message]
  | output fault => [fault.cause]
  | abort _ => []

/-- The message followed by all that lies behind it. -/
def report (f : Failure) (detail : String) : String :=
  ": ".intercalate (f.message detail :: f.causes)

end Failure

end TableQuery
