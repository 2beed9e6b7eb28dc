import TableQuery.Csv.Record
import TableQuery.Failure
import TableQuery.Table
import TableQuery.Text.Utf8

/-!
# Outputs — writing a result

A result is a script of writes: header first, one line for each row, as
plain text or as records. The script is run on a sink, which may fill up
before its end.
-/

namespace TableQuery

namespace Output

/-! ## Sinks

A sink accepts a limited number of bytes. A write that does not fit
leaves its beginning in the sink and fails. -/

/-- The bytes an output has accepted, and how many more it accepts if
there is a limit. -/
structure Sink where
  room : Option Nat := none
  accepted : List UInt8 := []
  deriving DecidableEq, Repr

namespace Sink

/-- Whether the sink accepts all of the bytes. -/
def fits (s : Sink) (bs : List UInt8) : Bool :=
  match s.room with
  | none => true
  | some n => bs.length ≤ n

/-- The sink after a write, which keeps what fits. -/
def put (s : Sink) (bs : List UInt8) : Sink :=
  match s.room with
  | none => { s with accepted := s.accepted ++ bs }
  | some n => ⟨some (n - bs.length), s.accepted ++ bs.take n⟩

end Sink

/-- One write, and the error that it ends in when the sink is full. A
buffer that is dropped after its write has failed still holds the bytes and
writes them `again`. -/
structure Write where
  bytes : List UInt8
  onFull : Fault
  again : Bool := false
  deriving DecidableEq, Repr

namespace Write

/-- What a failed write sends after itself. -/
def retry (w : Write) : List UInt8 :=
  if w.again then w.bytes else []

/-- A write of plain text. -/
def ofText (s : String) : Write where
  bytes := Text.bytes s
  onFull := .text .outputFull

/-- A write of one character of JSON. -/
def ofJson (c : Char) : Write where
  bytes := String.utf8EncodeChar c
  onFull := .json .outputFull

@[simp] theorem bytes_ofText (s : String) : (ofText s).bytes = Text.bytes s := rfl

@[simp] theorem bytes_ofJson (c : Char) : (ofJson c).bytes = String.utf8EncodeChar c := rfl

end Write

/-- The writes of an output, and the error that it ends in after them. -/
structure Script where
  writes : List Write
  failure : Option Fault := none
  deriving DecidableEq, Repr

/-- All bytes that a script writes to a sink with room for them. -/
def Script.bytes (s : Script) : List UInt8 :=
  s.writes.flatMap Write.bytes

/-- The sink after the writes up to the first that does not fit, and the
error of that one. -/
def writeAll : List Write → Sink → Sink × Option Fault
  | [], s => (s, none)
  | w :: ws, s =>
    if s.fits w.bytes then writeAll ws (s.put w.bytes)
    else ((s.put w.bytes).put w.retry, w.onFull)

/-- The sink after a script, and the error the script ended in. -/
def Script.run (script : Script) (s : Sink) : Sink × Except Fault Unit :=
  match writeAll script.writes s with
  | (s, some e) => (s, .error e)
  | (s, none) =>
    match script.failure with
    | some e => (s, .error e)
    | none => (s, .ok ())

end Output

/-! ## Rows

A result is written header first, one line for each row: as plain text
with a separator between the cells, line by line, or as records. Records go
through a buffer, which is written whenever it is full, when all is done,
and also after a record of the wrong width, then with the fields of that
record. A buffer whose write has failed is written once more when it is
dropped. -/

/-- How a result is written. -/
inductive OutputFormat
  | text
  | csv
  deriving DecidableEq, Repr

/-- The format with exactly the given name. -/
def OutputFormat.named? : String → Option OutputFormat
  | "text" => some text
  | "csv" => some csv
  | _ => none

namespace Output

/-- A line of plain text. -/
def textLine (separator : String) (cells : List String) : String :=
  separator.intercalate cells ++ "\n"

/-- A result as plain text. -/
def textScript (separator : String) (r : ResultSet) : Script where
  writes := r.lines.map fun l => .ofText (textLine separator l)

/-- The size of the buffer that records go through. -/
def bufferSize : Nat :=
  8192

/-- Writes pieces through the buffer. A full buffer is written while
records are; `last` is the error when its last contents do not fit, and
`again` says whether the drop is still to come then. -/
def bufferedWrites (ps : List Csv.Piece) (last : Fault) (again : Bool) : List Write :=
  let blocks := Csv.fillBlocks bufferSize [] 0 ps
  blocks.dropLast.map (⟨·, .records .outputFull, true⟩) ++
    blocks.getLast?.toList.map (⟨·, last, again⟩)

/-- A result as records. -/
def recordScript (r : ResultSet) : Script :=
  let width := r.columns.length
  let good := fun (l : List String) => l.length == width
  let whole := (r.lines.takeWhile good).flatMap Csv.recordPieces
  match r.lines.dropWhile good with
  | [] => ⟨bufferedWrites whole (.text .outputFull) true, none⟩
  | bad :: _ =>
    let e := Fault.width bad.length width
    ⟨bufferedWrites (whole ++ Csv.recordBody bad) e false, some e⟩

/-- A result in the given format. -/
def resultScript (format : OutputFormat) (separator : String) (r : ResultSet) : Script :=
  match format with
  | .text => textScript separator r
  | .csv => recordScript r

end Output

namespace Text

/-! ## Cutting texts

A text is cut at every place where a separator stands, from left to right
and without overlaps. -/

/-- The pieces of a text between the separators in it; `piece` holds the
characters of the first piece so far, last one first. Without a separator
the text is one piece. -/
def cutFrom (separator piece : List Char) (cs : List Char) : List (List Char) :=
  match cs with
  | [] => [piece.reverse]
  | c :: rest =>
    if separator ≠ [] ∧ separator.isPrefixOf (c :: rest) then
      piece.reverse :: cutFrom separator [] (rest.drop (separator.length - 1))
    else cutFrom separator (c :: piece) rest
termination_by cs.length
decreasing_by
  · simp only [List.length_cons, List.length_drop]
    omega
  · simp

/-- The pieces of a text between the separators in it. -/
def cut (separator : List Char) (cs : List Char) : List (List Char) :=
  cutFrom separator [] cs

end Text

namespace Output

/-! ## Reading plain text back

Plain text is cut at its line breaks and each line at the separator. The
last line ends in a line break too, so nothing stands behind it. -/

/-- The cells of a line. -/
def cellsOf (separator : String) (line : List Char) : List String :=
  (Text.cut separator.toList line).map String.ofList

/-- The cells of a text, line by line. -/
def linesOf (separator : String) (text : String) : List (List String) :=
  (Text.cut ['\n'] text.toList).dropLast.map (cellsOf separator)

/-- Whether the end of a text can be the beginning of another copy of
it. -/
def OverlapsItself (separator : List Char) : Prop :=
  ∃ front back middle : List Char, front ≠ [] ∧ back ≠ [] ∧
    separator = front ++ middle ∧ separator = back ++ front

end Output

end TableQuery
