import TableQuery.CommandLine.Command

/-!
# The program

Reads the arguments, the environment and the files, carries the command
out and shows its outcome.
-/

namespace TableQuery

namespace CommandLine

/-- The fault with a number of the system, which may come negated. -/
def numberedFault? (code : UInt32) : Option FileFault :=
  match min code (0 - code) with
  | 20 => some .notDirectory
  | 21 => some .isDirectory
  | 36 => some .nameTooLong
  | _ => none

/-- What went wrong when a file was read. -/
def fileFault (e : IO.Error) : FileFault :=
  match e with
  | .noFileOrDirectory .. => .notFound
  | .inappropriateType _ code _ => (numberedFault? code).getD (.other (toString e))
  | .resourceExhausted _ code _ => (numberedFault? code).getD (.other (toString e))
  | .invalidArgument _ code _ => (numberedFault? code).getD (.other (toString e))
  | e => .other (toString e)

/-- Reads the file at a path. -/
def readPath (path : String) : IO (Except FileFault (List UInt8)) := do
  try
    let content ← IO.FS.readBinFile path
    return .ok content.toList
  catch e =>
    return .error (fileFault e)

/-- Reads the files at some paths. -/
def takeSnapshot (paths : List String) : IO Snapshot :=
  paths.mapM fun path => return (path, ← readPath path)

/-- The variable that an entry of the environment sets. -/
def variableOf (entry : String) : String × String :=
  let cs := entry.toList
  (String.ofList (cs.takeWhile (· ≠ '=')), String.ofList ((cs.dropWhile (· ≠ '=')).drop 1))

/-- The environment of the process. -/
def readEnvironment : IO Environment := do
  match ← readPath "/proc/self/environ" with
  | .ok bytes =>
    let entries := ((Text.ofBytes? bytes).getD "").splitOn "\x00"
    return ⟨(entries.filter (· ≠ "")).map variableOf⟩
  | .error _ => return {}

/-- What is said of an environment file or a settings file whose text is
invalid. Their readers only tell that it is, so the words are the same for
all of them. -/
def invalidText : String :=
  "the text is invalid"

/-- Shows the outcome of a command. -/
def showOutcome (o : Outcome) : IO UInt32 := do
  let output ← IO.getStdout
  let errors ← IO.getStderr
  for line in o.log do
    errors.putStrLn line
  output.write ⟨o.output.toArray⟩
  output.flush
  if let some line := o.errorLine? invalidText then
    errors.putStrLn line
  return o.exitCode.toUInt32

/-- Shows why the arguments ask for no run. -/
def showRefusal (r : Refusal) : IO UInt32 := do
  let place ← if r.exitCode = 0 then IO.getStdout else IO.getStderr
  place.putStrLn r.message
  return r.exitCode.toUInt32

/-- Carries out a command. -/
def perform (a : Arguments) : IO UInt32 := do
  let dir := toString (← IO.currentDir)
  let env ← readEnvironment
  let seen ← takeSnapshot (Settings.paths dir a.settingsFile)
  match Settings.load seen.files env dir a.settingsFile with
  | .error _ => showOutcome (a.carryOut seen.files env dir)
  | .ok s =>
    let tables ← takeSnapshot (a.request s).paths
    showOutcome (a.carryOut (seen ++ tables : Snapshot).files env dir)

end CommandLine

end TableQuery

def main (words : List String) : IO UInt32 :=
  match TableQuery.CommandLine.Arguments.ofWords words with
  | .error r => TableQuery.CommandLine.showRefusal r
  | .ok a => TableQuery.CommandLine.perform a
