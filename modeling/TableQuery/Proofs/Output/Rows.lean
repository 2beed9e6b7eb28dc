import Mathlib.Data.List.TakeWhile
import TableQuery.Output.Result
import TableQuery.Proofs.Csv.Table
import TableQuery.Proofs.Query.Answer
import TableQuery.Text.Utf8

/-!
# Results — what is written of them

A result is written as its rendering, as far as the sink has room, and
nothing but the sink can stop it.
-/

namespace TableQuery

namespace Output

/-! ## Sinks

Two writes one after the other leave a sink as one write of both does, and
a write that does not fit leaves it full, so that nothing behind it gets
in, not even the same bytes again. So writes leave the beginning of their
bytes that the sink has room for, however the bytes are cut into writes
(`writeAll_fst`), and a script fails if that is not all of them. -/

variable {s : Sink} {script : Script} {bs : List UInt8}

namespace Sink

@[simp] theorem put_nil (s : Sink) : s.put [] = s := by
  obtain ⟨_ | n, accepted⟩ := s <;> simp [put]

@[simp] theorem fits_nil (s : Sink) : s.fits [] = true := by
  obtain ⟨_ | n, accepted⟩ := s <;> simp [fits]

theorem put_append (s : Sink) (bs bs' : List UInt8) : s.put (bs ++ bs') = (s.put bs).put bs' := by
  obtain ⟨_ | n, accepted⟩ := s
  · simp [put]
  · simp [put, List.take_append, Nat.sub_sub]

theorem fits_append (s : Sink) (bs bs' : List UInt8) :
    s.fits (bs ++ bs') = (s.fits bs && (s.put bs).fits bs') := by
  obtain ⟨_ | n, accepted⟩ := s
  · rfl
  · rw [Bool.eq_iff_iff]
    simp only [fits, put, List.length_append, Bool.and_eq_true, decide_eq_true_eq]
    omega

/-- **Nothing gets into a sink behind a write that did not fit.** -/
theorem put_put_of_not_fits (h : s.fits bs = false) (bs' : List UInt8) :
    (s.put bs).put bs' = s.put bs := by
  obtain ⟨_ | n, accepted⟩ := s
  · cases h
  · have hlt : n < bs.length := by simpa [fits] using h
    have hroom : n - bs.length = 0 := by omega
    simp [put, hroom]

end Sink

/-- **Writes leave what one write of all their bytes leaves**, also where
one of them fails and is made again. The induction is on the writes to
come; behind a failure the sink is full. -/
theorem writeAll_fst (ws : List Write) (s : Sink) :
    (writeAll ws s).1 = s.put (ws.flatMap Write.bytes) := by
  induction ws generalizing s with
  | nil => rw [writeAll, List.flatMap_nil, Sink.put_nil]
  | cons w ws ih =>
    rw [writeAll, List.flatMap_cons, Sink.put_append]
    cases hfits : s.fits w.bytes with
    | true => rw [if_pos rfl, ih]
    | false =>
      rw [if_neg Bool.false_ne_true, Sink.put_put_of_not_fits hfits,
        Sink.put_put_of_not_fits hfits]

/-- They fail if the bytes do not all fit. -/
theorem writeAll_snd_eq_none_iff (ws : List Write) (s : Sink) :
    (writeAll ws s).2 = none ↔ s.fits (ws.flatMap Write.bytes) = true := by
  induction ws generalizing s with
  | nil => simp [writeAll]
  | cons w ws ih =>
    rw [writeAll, List.flatMap_cons, Sink.fits_append]
    cases hfits : s.fits w.bytes with
    | true => rw [if_pos rfl, ih, Bool.true_and]
    | false => simp

/-- The error of writes is the one of a write. -/
theorem exists_onFull_of_writeAll {ws : List Write} {fault : Fault}
    (h : (writeAll ws s).2 = some fault) : ∃ w ∈ ws, w.onFull = fault := by
  induction ws generalizing s with
  | nil => cases h
  | cons w ws ih =>
    rw [writeAll] at h
    split at h
    · obtain ⟨w', hmem, hfault⟩ := ih h
      exact ⟨w', List.mem_cons_of_mem w hmem, hfault⟩
    · exact ⟨w, List.mem_cons_self, Option.some.inj h⟩

/-- A script that was not to fail fails by one of its writes. -/
theorem Script.exists_onFull_of_run {fault : Fault} (hfailure : script.failure = none)
    (h : (script.run s).2 = .error fault) : ∃ w ∈ script.writes, w.onFull = fault := by
  refine exists_onFull_of_writeAll (s := s) ?_
  unfold Script.run at h
  split at h
  · rename_i hall
    cases h
    rw [hall]
  · rw [hfailure] at h
    cases h

/-- **A script that fits leaves all of its bytes** and fails only if it was
to fail anyway. -/
theorem Script.run_of_fits (h : s.fits script.bytes = true) :
    script.run s = (s.put script.bytes, script.failure.elim (.ok ()) .error) := by
  have hall : writeAll script.writes s = (s.put script.bytes, none) :=
    Prod.ext (writeAll_fst script.writes s) ((writeAll_snd_eq_none_iff script.writes s).2 h)
  rw [Script.run, hall]
  cases script.failure <;> rfl

/-- **A script that does not fit fails** and leaves what fits. -/
theorem Script.run_of_not_fits (h : s.fits script.bytes = false) :
    ∃ fault, script.run s = (s.put script.bytes, .error fault) := by
  have hne : (writeAll script.writes s).2 ≠ none := fun hnone => by
    have hfits : s.fits script.bytes = true := (writeAll_snd_eq_none_iff script.writes s).1 hnone
    rw [h] at hfits
    cases hfits
  obtain ⟨fault, hfault⟩ := Option.ne_none_iff_exists'.1 hne
  have hall : writeAll script.writes s = (s.put script.bytes, some fault) :=
    Prod.ext (writeAll_fst script.writes s) hfault
  exact ⟨fault, by rw [Script.run, hall]⟩

/-! ## Rows

The buffer parts the bytes of records into writes and changes nothing
about them, so a result whose rows are as wide as its columns is written as
its lines are: its rendering, whatever the format. -/

variable {r : ResultSet}

/-- A result written in full. -/
def rendering (format : OutputFormat) (separator : String) (r : ResultSet) : List UInt8 :=
  match format with
  | .text => Text.bytes (String.join (r.lines.map (textLine separator)))
  | .csv => Csv.written r.lines

/-- **The buffer keeps every byte in its place.** -/
theorem flatMap_bufferedWrites (ps : List Csv.Piece) (last : Fault) (again : Bool) :
    (bufferedWrites ps last again).flatMap Write.bytes = ps.flatten := by
  have hflatten : (Csv.fillBlocks bufferSize [] 0 ps).flatten = ps.flatten :=
    Csv.flatten_fillBlocks bufferSize [] 0 ps
  rw [bufferedWrites, ← hflatten]
  -- only the last block is written under an error of its own
  rcases (Csv.fillBlocks bufferSize [] 0 ps).eq_nil_or_concat with hblocks | ⟨front, b, hblocks⟩
  · rw [hblocks]
    rfl
  · rw [hblocks]
    simp [List.flatMap_map, List.flatMap_id']

/-- What fails while records are written is the sink: no write has another
error than one of a sink that is full, if the last one has not. -/
theorem onFull_of_mem_bufferedWrites {ps : List Csv.Piece} {last : Fault} {again : Bool}
    {w : Write} (h : w ∈ bufferedWrites ps last again) :
    w.onFull = .records .outputFull ∨ w.onFull = last := by
  rw [bufferedWrites, List.mem_append, List.mem_map, List.mem_map] at h
  rcases h with ⟨block, -, rfl⟩ | ⟨block, -, rfl⟩
  · exact .inl rfl
  · exact .inr rfl

/-- A result of even width is written record by record to its end. -/
theorem recordScript_eq_of_width (h : ∀ row ∈ r.rows, row.length = r.columns.length) :
    recordScript r =
      ⟨bufferedWrites (r.lines.flatMap Csv.recordPieces) (.text .outputFull) true, none⟩ := by
  have hgood : ∀ l ∈ r.lines, (l.length == r.columns.length) = true := by
    simpa [ResultSet.lines] using h
  have htake := List.takeWhile_eq_self_iff.2 hgood
  have hdrop := List.dropWhile_eq_nil_iff.2 hgood
  simp only [recordScript, htake, hdrop]

/-- The records of a result of even width are its lines. -/
theorem recordScript_of_width (h : ∀ row ∈ r.rows, row.length = r.columns.length) :
    (recordScript r).bytes = Csv.written r.lines ∧ (recordScript r).failure = none := by
  rw [recordScript_eq_of_width h]
  exact ⟨flatMap_bufferedWrites _ _ _, rfl⟩

theorem textScript_bytes (separator : String) (r : ResultSet) :
    (textScript separator r).bytes = rendering .text separator r := by
  simp only [rendering, Text.bytes_join, textScript, Script.bytes, List.flatMap_map,
    Write.bytes_ofText]

/-- **A result of even width is written in full.** -/
theorem resultScript_of_width (h : ∀ row ∈ r.rows, row.length = r.columns.length)
    (format : OutputFormat) (separator : String) :
    (resultScript format separator r).bytes = rendering format separator r ∧
      (resultScript format separator r).failure = none := by
  cases format with
  | text => exact ⟨textScript_bytes separator r, rfl⟩
  | csv => exact recordScript_of_width h

end Output

/-! ## Widths

Records that are written have to be of one width, and rows of tables need
not be. What makes up for it stands in three places: no source hands out a
table without a header, no selection of no columns is executed, and every
row is taken at the positions that the columns are taken at. So a result
has a column and rows as wide as its columns, and writing it as records
fails by the sink or not at all. -/

variable {source : TableSource} {t : Table} {cs : List Clause} {r : ResultSet} {query : String}

/-! ### Columns -/

/-- No columns are looked up only where there is nothing to look up. -/
theorem Table.positions_ne_nil {s : Selection} {positions : List Nat} (ht : t.headers ≠ [])
    (h : t.positions s = .ok positions) : positions ≠ [] := by
  unfold Table.positions at h
  split at h
  · cases h
    rwa [ne_eq, List.range_eq_nil, List.length_eq_zero_iff]
  · cases h
  · rename_i columns hcolumns
    have hlength := (mapM_eq_ok_iff.1 h).length_eq
    rintro rfl
    exact hcolumns (List.length_eq_zero_iff.1 hlength)

/-- **A result has a column** if tables have headers. -/
theorem columns_ne_nil_of_execute (hsource : source.Headed) (h : execute source cs = .ok r) :
    r.columns ≠ [] := by
  obtain ⟨p, t, positions, test, hp, ht, hpositions, rfl⟩ := exists_of_execute h
  obtain ⟨name, -, hload⟩ := (Plan.reflects_ofClauses hp).exists_last? ht
  rw [project, ne_eq, List.map_eq_nil_iff]
  exact Table.positions_ne_nil (hsource name t hload) hpositions

/-! ### Records -/

namespace Output

variable {s : Sink}

/-- Where the rows are as wide as the columns, no record is refused, not
even where the sink is full. -/
theorem run_recordScript_ne_width (h : ∀ row ∈ r.rows, row.length = r.columns.length)
    (found expected : Nat) : ((recordScript r).run s).2 ≠ .error (.width found expected) := by
  intro hrun
  rw [recordScript_eq_of_width h] at hrun
  obtain ⟨w, hw, hfault⟩ := Script.exists_onFull_of_run rfl hrun
  rcases onFull_of_mem_bufferedWrites hw with hfull | hfull
  · cases hfull.symm.trans hfault
  · cases hfull.symm.trans hfault

end Output

/-- **Every result is rectangular**, with at least one column, whatever
tables it comes from. So writing it as records succeeds where the sink
takes all of it, and no sink makes it a record of another width. -/
theorem rectangular_of_executeQuery (hsource : source.Provided)
    (h : executeQuery source query = .ok r) :
    r.columns ≠ [] ∧ (∀ row ∈ r.rows, row.length = r.columns.length) ∧
    ∀ separator,
      (∀ before, (Output.resultScript .csv separator r).run ⟨none, before⟩ =
        (⟨none, before ++ Csv.written r.lines⟩, .ok ())) ∧
      ∀ s found expected,
        ((Output.resultScript .csv separator r).run s).2 ≠ .error (.width found expected) := by
  obtain ⟨cs, -, hexecute⟩ := bind_eq_ok_iff.1 h
  have hwidth : ∀ row ∈ r.rows, row.length = r.columns.length := length_of_mem_rows hexecute
  refine ⟨columns_ne_nil_of_execute hsource.headed hexecute, hwidth, fun separator =>
    ⟨fun before => ?_, fun s => Output.run_recordScript_ne_width hwidth⟩⟩
  obtain ⟨hbytes, hfailure⟩ := Output.recordScript_of_width hwidth
  rw [Output.resultScript, Output.Script.run_of_fits rfl, hbytes, hfailure]
  rfl

/-- Rows without a cell and with one too many, of a table in memory, and
the one column of a file. -/
theorem rectangular_of_executeQuery_ragged :
    (executeQuery (Catalog.load ⟨[⟨"t", ["A", "B"], [["1"], [], ["2", "x,y", "3"]]⟩]⟩)
        "SELECT b, a FROM t" = .ok ⟨["B", "A"], [["", "1"], ["", ""], ["x,y", "2"]]⟩ ∧
      (Output.resultScript .csv ""
          ⟨["B", "A"], [["", "1"], ["", ""], ["x,y", "2"]]⟩).run ⟨none, []⟩ =
        (⟨none, Text.bytes "B,A\n,1\n,\n\"x,y\",2\n"⟩, .ok ())) ∧
    executeQuery (TableFolder.source ⟨fun _ => true, fun _ => .ok (Text.bytes "\n\na\r\"\"")⟩ "d")
        "FROM t" = .ok ⟨["A"], [[""]]⟩ ∧
      (Output.resultScript .csv "" ⟨["A"], [[""]]⟩).run ⟨none, []⟩ =
        (⟨none, Text.bytes "A\n\"\"\n"⟩, .ok ()) := by
  have hcatalog : executeQuery
      (Catalog.load ⟨[⟨"t", ["A", "B"], [["1"], [], ["2", "x,y", "3"]]⟩]⟩) "SELECT b, a FROM t" =
      .ok ⟨["B", "A"], [["", "1"], ["", ""], ["x,y", "2"]]⟩ := by
    decide +kernel
  have hfolder : executeQuery
      (TableFolder.source ⟨fun _ => true, fun _ => .ok (Text.bytes "\n\na\r\"\"")⟩ "d") "FROM t" =
      .ok ⟨["A"], [[""]]⟩ := by
    decide +kernel
  obtain ⟨-, -, hrecords⟩ := rectangular_of_executeQuery (.catalog _) hcatalog
  obtain ⟨-, -, hrecord⟩ := rectangular_of_executeQuery (.folder _ _) hfolder
  refine ⟨⟨hcatalog, ((hrecords "").1 []).trans ?_⟩, hfolder, ((hrecord "").1 []).trans ?_⟩
  · decide +kernel
  · decide +kernel

end TableQuery
