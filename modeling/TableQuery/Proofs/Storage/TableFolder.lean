import TableQuery.Proofs.Csv.Table
import TableQuery.Proofs.Output.Rows
import TableQuery.Proofs.Query.Refusal
import TableQuery.Storage.Tree

/-!
# Table folders — what they hand out

A folder hands out the table in a file, or says what is wrong with the file.
-/

namespace TableQuery

namespace TableFolder

/-! ## Results as tables

A result that was written as records is a table in any folder that holds
what was written. -/

variable {r : ResultSet}

/-- **A written result loads as a table**, whatever its cells hold: the
writing succeeds, and the file of what it wrote is the table with the
columns in capitals and the same rows. Only the first column must not begin
with a byte-order mark, which would be no part of the file. -/
theorem source_of_written (hcolumns : r.columns ≠ [])
    (hmark : ∀ first ∈ r.columns.head?, first.toList.head? ≠ some '\uFEFF')
    (hwidth : ∀ row ∈ r.rows, row.length = r.columns.length) (separator : String) :
    ∃ file, (Output.resultScript .csv separator r).run {} = ({ accepted := file }, .ok ()) ∧
      ∀ (files : Files) (base name : String), files.read (tablePath base name) = .ok file →
        source files base name = .ok ⟨name, r.columns.map Text.upper, r.rows⟩ := by
  obtain ⟨hbytes, hfailure⟩ := Output.recordScript_of_width hwidth
  refine ⟨Csv.written r.lines, ?_, fun files base name hread => ?_⟩
  · rw [Output.resultScript, Output.Script.run_of_fits rfl, hbytes, hfailure]
    rfl
  · have htable : Csv.table name (Csv.written r.lines) = .ok (Table.make name r.columns r.rows) :=
      Csv.table_written hcolumns hmark hwidth
    rw [source, hread]
    change (Csv.table name (Csv.written r.lines)).mapError _ = _
    rw [htable]
    rfl

/-- One column whose rows look like blank lines or hold what parts and
surrounds fields. -/
theorem source_of_written_blank :
    (Output.resultScript .csv "" ⟨["é"], [[""], ["\r\n"], ["a,\"b\""], [" x"]]⟩).run {} =
      ({ accepted := Text.bytes "é\n\"\"\n\"\r\n\"\n\"a,\"\"b\"\"\"\n x\n" }, .ok ()) ∧
    source ⟨fun _ => true, fun _ => .ok (Text.bytes "é\n\"\"\n\"\r\n\"\n\"a,\"\"b\"\"\"\n x\n")⟩
        "d" "t" =
      .ok ⟨"t", ["É"], [[""], ["\r\n"], ["a,\"b\""], [" x"]]⟩ := by
  obtain ⟨file, hrun, hsource⟩ :=
    source_of_written (r := ⟨["é"], [[""], ["\r\n"], ["a,\"b\""], [" x"]]⟩) (by decide)
      (by simp) (by decide) ""
  have hfile : file = Text.bytes "é\n\"\"\n\"\r\n\"\n\"a,\"\"b\"\"\"\n x\n" :=
    (congrArg (·.1.accepted) hrun).symm.trans (by decide)
  subst hfile
  exact ⟨hrun, hsource _ "d" "t" rfl⟩

/-! ## All of a file or nothing of it

A table of a folder has every record of its file, or the file is refused
for the first record that breaks the rule of one width and of texts. A
refused file is refused to every list of clauses that comes to name it: the
clauses behind it, the condition and the limit do not matter, since the
table is loaded where it is named and before any row is looked at. -/

open Clause

variable {files : Files} {base name : String} {file : List UInt8} {t : Table} {e : QueryError}

/-- A file that can be read is read as a table. -/
theorem source_of_read (hread : files.read (tablePath base name) = .ok file) :
    source files base name =
      (Csv.table name file).mapError (.malformedSource (tablePath base name)) := by
  simp only [source, hread]

/-- **What a file is refused for** names the file. -/
theorem source_eq_error_iff (hread : files.read (tablePath base name) = .ok file) :
    source files base name = .error e ↔
      ∃ fault, Csv.Flawed (Csv.records file) fault ∧
        e = .malformedSource (tablePath base name) fault := by
  rw [source_of_read hread, mapError_eq_error_iff]
  simp only [Csv.table_eq_error_iff, @eq_comm _ e]

/-- **A file is loaded as a whole or not at all.** It is loaded exactly if its
records have one width and texts for fields, and then they are the table, the
first one in capitals as its header. Any other file is refused, and so is
every list of clauses that comes to name it: what stands behind that does not
matter. -/
theorem source_all_or_nothing (hread : files.read (tablePath base name) = .ok file) :
    ((∃ t, source files base name = .ok t) ↔ Csv.Tabular (Csv.records file)) ∧
    (∀ t, source files base name = .ok t ↔ ∃ columns rows,
      (Csv.records file).map Csv.Record.fields =
          (columns :: rows).map (List.map Text.bytes) ∧
        (∀ row ∈ rows, row.length = columns.length) ∧
        t = ⟨name, columns.map Text.upper, rows⟩) ∧
    (¬ Csv.Tabular (Csv.records file) → ∃ fault, Csv.Flawed (Csv.records file) fault ∧
      source files base name = .error (.malformedSource (tablePath base name) fault) ∧
      ∀ front back, Passable (source files base) front →
        execute (source files base) (front ++ .source name :: back) =
          .error (.malformedSource (tablePath base name) fault)) := by
  have hok (t : Table) : source files base name = .ok t ↔ Csv.table name file = .ok t := by
    rw [source_of_read hread, mapError_eq_ok_iff]
  have hloads : (∃ t, source files base name = .ok t) ↔ Csv.Tabular (Csv.records file) := by
    simp only [hok]
    exact Csv.exists_table_eq_ok_iff
  refine ⟨hloads, fun t => (hok t).trans Csv.table_eq_ok_iff, fun hflawed => ?_⟩
  cases hsource : source files base name with
  | ok t => exact absurd (hloads.1 ⟨t, hsource⟩) hflawed
  | error e =>
    obtain ⟨fault, hfault, rfl⟩ := (source_eq_error_iff hread).1 hsource
    exact ⟨fault, hfault, rfl, fun front back hfront => execute_of_source_error hfront hsource back⟩

/-- A folder with a file of one row and a file whose last record has a byte
that belongs to no text. -/
def lastByte : Files where
  holds path := path = "d/good.csv" || path = "d/bad.csv"
  read path :=
    if path = "d/good.csv" then .ok (Text.bytes "a\n1\n")
    else if path = "d/bad.csv" then .ok (Text.bytes "a,b\n1,2\n3," ++ [0xFF])
    else .error .notFound

/-- The last record of a file refuses it, behind a limit that takes no row and
in front of a table that loads. -/
theorem source_all_or_nothing_lastByte :
    source lastByte "d" "good" = .ok ⟨"good", ["A"], [["1"]]⟩ ∧
    execute (source lastByte "d")
        [.limit "0", .source "good", .source "bad", .filter ⟨"A", "=", "x"⟩, .source "good"] =
      .error (.malformedSource "d/bad.csv" (.records (.notText ⟨2, 3, 8⟩ 1 0))) := by
  have hgood : (Csv.records (Text.bytes "a\n1\n")).map Csv.Record.fields =
      (["a"] :: [["1"]]).map (List.map Text.bytes) := by decide
  have hload : source lastByte "d" "good" = .ok ⟨"good", ["A"], [["1"]]⟩ := by
    have hread : lastByte.read (tablePath "d" "good") = .ok (Text.bytes "a\n1\n") := rfl
    obtain ⟨-, htable, -⟩ := source_all_or_nothing hread
    exact (htable _).2 ⟨["a"], [["1"]], hgood, by decide, rfl⟩
  have hrefused : source lastByte "d" "bad" =
      .error (.malformedSource "d/bad.csv" (.records (.notText ⟨2, 3, 8⟩ 1 0))) := by
    decide +kernel
  have hfront : Passable (source lastByte "d") [.limit "0", .source "good"] := by
    refine ⟨fun name hname => ?_, fun count hcount => ?_⟩
    · obtain rfl : name = "good" := by simpa using hname
      exact ⟨_, hload⟩
    · obtain rfl : count = "0" := by simpa using hcount
      exact ⟨0, rfl⟩
  have hread : lastByte.read (tablePath "d" "bad") =
      .ok (Text.bytes "a,b\n1,2\n3," ++ [0xFF]) := rfl
  obtain ⟨hloads, -, hexecute⟩ := source_all_or_nothing hread
  have hflawed : ¬ Csv.Tabular (Csv.records (Text.bytes "a,b\n1,2\n3," ++ [0xFF])) := by
    rw [← hloads, hrefused]
    simp
  obtain ⟨fault, -, hsource, hanswer⟩ := hexecute hflawed
  have hfault : fault = .records (.notText ⟨2, 3, 8⟩ 1 0) := by
    rw [hsource] at hrefused
    injection hrefused with hrefused
    injection hrefused
  subst hfault
  exact ⟨hload, hanswer _ [.filter ⟨"A", "=", "x"⟩, .source "good"] hfront⟩

end TableFolder

end TableQuery
