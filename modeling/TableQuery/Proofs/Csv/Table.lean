import TableQuery.Proofs.Csv.Written
import TableQuery.Proofs.Outcome
import TableQuery.Storage.Tree
import TableQuery.Table

/-!
# Tables — which files hold one

What was written as records is read as the table of its lines, and whatever
is read as a table has a header (`headers_ne_nil_of_table`). A file that is
no table is refused for the first record that breaks the rule
(`table_eq_error_iff`).
-/

namespace TableQuery

namespace Csv

/-! ## Reading back

Records whose fields are the bytes of texts give those texts, and so a file
of written records gives the table of the lines that were written, if they
are of one width. Whatever a file holds, every record of it has a field, so
a table that is read from one has a header. -/

variable {r : Record} {rs : List Record} {cells columns : List String} {rows : List (List String)}
variable {name : String} {width : Nat} {bs file : List UInt8} {t : Table}

namespace Record

/-- Fields that encode texts are read as those texts. -/
theorem texts_eq_ok (h : r.fields = cells.map Text.bytes) : r.texts = .ok cells := by
  rw [texts, h, mapM_eq_ok_iff]
  clear h
  -- the index of a field matters only for a fault
  generalize 0 = i
  induction cells generalizing i with
  | nil => exact .nil
  | cons s cells ih => exact .cons (by simp) (ih (i + 1))

theorem row_eq_ok (h : r.fields = cells.map Text.bytes) (hwidth : cells.length = width) :
    r.row width = .ok cells := by
  rw [row, if_pos (by simp [h, hwidth])]
  exact texts_eq_ok h

theorem mapM_row_eq_ok (h : rs.map fields = rows.map (List.map Text.bytes))
    (hwidth : ∀ row ∈ rows, row.length = width) : rs.mapM (row width) = .ok rows := by
  rw [mapM_eq_ok_iff]
  induction rows generalizing rs with
  | nil =>
    obtain rfl := List.map_eq_nil_iff.1 h
    exact .nil
  | cons cells rows ih =>
    obtain ⟨r, rs, rfl, hr, hrs⟩ := List.map_eq_cons_iff.1 h
    obtain ⟨hcells, hrows⟩ := List.forall_mem_cons.1 hwidth
    exact .cons (row_eq_ok hr hcells) (ih hrs hrows)

end Record

/-- **Records whose fields encode lines of one width are the table of these
lines**, the first of which is the header. -/
theorem table_eq_ok
    (h : (records file).map Record.fields = (columns :: rows).map (List.map Text.bytes))
    (hwidth : ∀ row ∈ rows, row.length = columns.length) :
    table name file = .ok (.make name columns rows) := by
  obtain ⟨header, rs, hrs, hheader, hrows⟩ := List.map_eq_cons_iff.1 h
  have htexts : header.texts = .ok columns := Record.texts_eq_ok hheader
  have hlength : header.fields.length = columns.length := by rw [hheader, List.length_map]
  have hmapM : rs.mapM (Record.row header.fields.length) = .ok rows :=
    Record.mapM_row_eq_ok hrows (hlength ▸ hwidth)
  rw [table, hrs]
  simp only [tableOfRecords, htexts, hmapM]
  rfl

/-- **Written records are read as the table of their lines.** -/
theorem table_written (hcolumns : columns ≠ [])
    (hmark : ∀ first ∈ columns.head?, first.toList.head? ≠ some '\uFEFF')
    (hwidth : ∀ row ∈ rows, row.length = columns.length) :
    table name (written (columns :: rows)) = .ok (Table.make name columns rows) := by
  have hlines : ∀ l ∈ columns :: rows, l ≠ [] := by
    refine List.forall_mem_cons.2 ⟨hcolumns, fun row hrow => ?_⟩
    rw [← List.length_pos_iff, hwidth row hrow]
    exact List.length_pos_iff.2 hcolumns
  exact table_eq_ok (map_fields_records_written hlines hmark) hwidth

/-! ### Tables of any file -/

namespace Reader

/-- A record ends with the field that was being read. -/
theorem fields_record_ne_nil (reader : Reader) : reader.record.fields ≠ [] := by
  simp [Reader.record]

theorem fields_ne_nil_of_step {reader : Reader} {b : UInt8} (h : (reader.step b).2 = some r) :
    r.fields ≠ [] := by
  unfold step take at h
  split at h
  · cases h
  · -- of the things that a byte can do, one ends the record
    repeat' split at h
    all_goals cases h
    exact fields_record_ne_nil _

theorem fields_ne_nil_of_mem_run {reader : Reader} (h : r ∈ reader.run bs) : r.fields ≠ [] := by
  induction bs generalizing reader with
  | nil =>
    rw [run, last?] at h
    split at h
    · cases h
    · obtain rfl := by simpa using h
      exact fields_record_ne_nil reader
  | cons b bs ih =>
    rw [run] at h
    split at h
    · exact ih h
    · rename_i hstep
      rcases List.mem_cons.1 h with rfl | h
      · exact fields_ne_nil_of_step (congrArg Prod.snd hstep)
      · exact ih h

end Reader

/-- **Every record of a file has a field.** -/
theorem fields_ne_nil_of_mem_records (h : r ∈ records file) : r.fields ≠ [] := by
  unfold records at h
  split at h
  · exact Reader.fields_ne_nil_of_mem_run h
  · exact Reader.fields_ne_nil_of_mem_run h

/-- Reading the texts of a record keeps their number. -/
theorem Record.length_of_texts (h : r.texts = .ok cells) : cells.length = r.fields.length := by
  have hlength := (mapM_eq_ok_iff.1 h).length_eq
  rw [List.length_zipIdx] at hlength
  exact hlength.symm

theorem Record.length_of_row (h : r.row width = .ok cells) : cells.length = width := by
  unfold row at h
  split at h
  · rename_i hwidth
    exact (length_of_texts h).trans hwidth
  · cases h

/-- What a table is made of. -/
theorem exists_of_table (h : table name file = .ok t) :
    ∃ header rs columns rows, records file = header :: rs ∧ header.texts = .ok columns ∧
      rs.mapM (Record.row header.fields.length) = .ok rows ∧ t = .make name columns rows := by
  unfold table tableOfRecords at h
  split at h
  · cases h
  · rename_i header rs hrecords
    obtain ⟨columns, hcolumns, h⟩ := bind_eq_ok_iff.1 (mapError_eq_ok_iff.1 h)
    obtain ⟨rows, hrows, h⟩ := bind_eq_ok_iff.1 h
    cases h
    exact ⟨header, rs, columns, rows, hrecords, hcolumns, hrows, rfl⟩

/-- So a table has a header, whatever the file holds. -/
theorem headers_ne_nil_of_table (h : table name file = .ok t) : t.headers ≠ [] := by
  obtain ⟨header, rs, columns, rows, hrecords, hcolumns, -, rfl⟩ := exists_of_table h
  have hfields : header.fields ≠ [] :=
    fields_ne_nil_of_mem_records (hrecords ▸ List.mem_cons_self)
  rw [Table.make, ne_eq, List.map_eq_nil_iff, ← List.length_eq_zero_iff,
    Record.length_of_texts hcolumns, List.length_eq_zero_iff]
  exact hfields

/-- And its rows are as wide as the header. -/
theorem width_of_mem_rows (h : table name file = .ok t) :
    ∀ row ∈ t.rows, row.length = t.headers.length := by
  obtain ⟨header, rs, columns, rows, -, hcolumns, hrows, rfl⟩ := exists_of_table h
  intro row hrow
  rw [Table.make, List.length_map, Record.length_of_texts hcolumns]
  obtain ⟨r, -, hr⟩ := exists_mem_of_mapM_eq_ok hrows row hrow
  exact Record.length_of_row hr

end Csv

/-! ## Sources

A catalog looks at the header of a table before it hands the table out,
and a folder has no file whose records have no fields. So whichever of the
two a table comes from, it has a column. -/

/-- Every table that the source hands out has a header. -/
def TableSource.Headed (source : TableSource) : Prop :=
  ∀ name t, source name = .ok t → t.headers ≠ []

/-- The sources that there are: catalogs and folders. -/
inductive TableSource.Provided : TableSource → Prop
  | catalog (c : Catalog) : Provided c.load
  | folder (files : Files) (base : String) : Provided (TableFolder.source files base)

theorem Catalog.headed_load (c : Catalog) : c.load.Headed := by
  intro name t h
  unfold load at h
  split at h
  · cases h
  · split at h
    · cases h
    · rename_i hheaders
      cases h
      exact hheaders

/-- A table of a folder is read from the file of its name. -/
theorem TableFolder.exists_of_source {files : Files} {base name : String} {t : Table}
    (h : source files base name = .ok t) :
    ∃ file, files.read (tablePath base name) = .ok file ∧ Csv.table name file = .ok t := by
  unfold source at h
  simp only at h
  split at h
  · cases h
  · cases h
  · rename_i file hread
    exact ⟨file, hread, mapError_eq_ok_iff.1 h⟩

theorem TableFolder.headed_source (files : Files) (base : String) :
    (source files base).Headed := by
  intro name t h
  obtain ⟨file, -, htable⟩ := exists_of_source h
  exact Csv.headers_ne_nil_of_table htable

/-- In a table of a folder no row is shorter or longer than the header. -/
theorem TableFolder.width_of_mem_rows {files : Files} {base name : String} {t : Table}
    (h : source files base name = .ok t) : ∀ row ∈ t.rows, row.length = t.headers.length := by
  obtain ⟨file, -, htable⟩ := exists_of_source h
  exact Csv.width_of_mem_rows htable

/-- **Every source hands out tables with headers.** -/
theorem TableSource.Provided.headed {source : TableSource} (h : source.Provided) :
    source.Headed := by
  cases h with
  | catalog c => exact c.headed_load
  | folder files base => exact TableFolder.headed_source files base

namespace Csv

/-! ## Files that hold a table

A file holds a table if it has a record, and if its records have one width
and texts for fields. Then all of its records are in the table. Otherwise
the file is refused, for what is wrong with the first record that breaks
the rule (`table_eq_error_iff`): for its width, or else for its first field
that is no text. -/

variable {r : Record} {rs : List Record} {cells : List String} {field : List UInt8}
variable {name : String} {width i : Nat} {file : List UInt8} {t : Table} {fault : Fault}

/-- Whether a field is the bytes of a text. -/
def IsText (field : List UInt8) : Prop :=
  ∃ s, Text.bytes s = field

/-- Whether there is a record and all records have the width of the first and
texts for fields. -/
def Tabular (rs : List Record) : Prop :=
  ∃ header ∈ rs.head?, ∀ r ∈ rs,
    r.fields.length = header.fields.length ∧ ∀ field ∈ r.fields, IsText field

namespace Record

/-- The field at an index is no text. -/
def Unreadable (r : Record) (field : List UInt8) (i : Nat) (fault : Fault) : Prop :=
  ¬ IsText field ∧ fault = .notText r.start i (Text.readableLength field)

/-- The record has another width. -/
def Misfits (width : Nat) (r : Record) (fault : Fault) : Prop :=
  r.fields.length ≠ width ∧ fault = .width r.start r.fields.length width

/-- What is wrong with a record where records of a width are expected: its own
width, or else its first field that is no text. -/
def Wrong (width : Nat) (r : Record) : Fault → Prop :=
  FirstOf (r.Misfits width :: r.fields.zipIdx.map fun f => r.Unreadable f.1 f.2)

end Record

/-- Why records are no table: there are none, or something is wrong with the
first of those that something is wrong with. -/
inductive Flawed : List Record → SourceFault → Prop
  | empty : Flawed [] .noHeader
  | record {header : Record} {rs : List Record} {fault : Fault} :
      FirstOf ((header :: rs).map (Record.Wrong header.fields.length)) fault →
      Flawed (header :: rs) (.records fault)

/-! ### Single records -/

theorem isText_iff_exists_ofBytes? : IsText field ↔ ∃ s, Text.ofBytes? field = some s := by
  simp only [IsText, Text.ofBytes?_eq_some_iff, @eq_comm _ field]

namespace Record

/-- What is read of a record is what its fields encode. -/
theorem fields_eq_of_texts (h : r.texts = .ok cells) : r.fields = cells.map Text.bytes := by
  rw [texts, mapM_eq_ok_iff] at h
  generalize r.fields = fields at h
  -- the index of a field matters only for a fault
  generalize 0 = i at h
  induction fields generalizing i cells with
  | nil =>
    cases h
    rfl
  | cons field fields ih =>
    obtain ⟨s, cells, hs, hrest, rfl⟩ := List.forall₂_cons_left_iff.1 h
    cases htext : Text.ofBytes? field with
    | none => simp [htext] at hs
    | some s' =>
      obtain rfl : s' = s := by simpa [htext] using hs
      rw [List.map_cons, ih (i + 1) hrest, Text.ofBytes?_eq_some_iff.1 htext]

theorem failsBy_texts (r : Record) :
    FailsBy r.texts (r.fields.zipIdx.map fun f => r.Unreadable f.1 f.2) := by
  rw [texts]
  refine failsBy_mapM (fun f => ?_) r.fields.zipIdx
  rw [failsBy_singleton_iff]
  intro fault
  obtain ⟨field, i⟩ := f
  unfold Unreadable
  rw [isText_iff_exists_ofBytes?]
  cases htext : Text.ofBytes? field with
  | some s => simp [htext]
  | none => simp [htext, eq_comm]

/-- **A record is refused for its width first.** -/
theorem failsBy_row (width : Nat) (r : Record) : FailsBy (r.row width) [r.Wrong width] := by
  refine FailsBy.single ?_
  rw [row]
  by_cases hwidth : r.fields.length = width
  · rw [if_pos hwidth]
    exact r.failsBy_texts.skip fun fault hmisfits => hmisfits.1 hwidth
  · rw [if_neg hwidth]
    exact failsBy_of_error rfl fun fault => by simp [Misfits, hwidth]

/-- Nothing is wrong with a record of the width whose fields are texts. -/
theorem exists_wrong_iff :
    (∃ fault, r.Wrong width fault) ↔
      ¬ (r.fields.length = width ∧ ∀ field ∈ r.fields, IsText field) := by
  have hmisfits : (∃ fault, r.Misfits width fault) ↔ r.fields.length ≠ width := by
    simp [Misfits]
  have hunreadable : (∃ P ∈ r.fields.zipIdx.map fun f => r.Unreadable f.1 f.2, ∃ fault, P fault) ↔
      ∃ field ∈ r.fields, ¬ IsText field := by
    constructor
    · rintro ⟨P, hP, fault, hfault⟩
      obtain ⟨f, hf, rfl⟩ := List.mem_map.1 hP
      exact ⟨f.1, List.fst_mem_of_mem_zipIdx hf, hfault.1⟩
    · rintro ⟨field, hfield, htext⟩
      obtain ⟨i, hi⟩ := List.mem_iff_getElem?.1 hfield
      have hmem : (field, i) ∈ r.fields.zipIdx := List.mk_mem_zipIdx_iff_getElem?.2 hi
      exact ⟨_, List.mem_map_of_mem hmem, _, htext, rfl⟩
  rw [Wrong, exists_firstOf_iff, List.exists_mem_cons_iff, hmisfits, hunreadable, not_and_or]
  simp

/-- What is read of a record of the width is what its fields encode. -/
theorem fields_eq_of_row (h : r.row width = .ok cells) : r.fields = cells.map Text.bytes := by
  unfold row at h
  split at h
  · exact fields_eq_of_texts h
  · cases h

end Record

/-! ### Whole files -/

/-- The header is a record of its own width. -/
theorem failsBy_table (name : String) {header : Record} (hrecords : records file = header :: rs) :
    ∃ x : Except Fault Table, table name file = x.mapError .records ∧
      FailsBy x ((header :: rs).map (Record.Wrong header.fields.length)) := by
  refine ⟨_, by rw [table, hrecords, tableOfRecords], ?_⟩
  have hheader : FailsBy header.texts [header.Wrong header.fields.length] := by
    have h := header.failsBy_row header.fields.length
    rwa [Record.row, if_pos rfl] at h
  refine hheader.bind fun columns _ => ?_
  exact (failsBy_mapM (Record.failsBy_row header.fields.length) rs).bind_pure _

/-- **Why a file is refused.** -/
theorem table_eq_error_iff {fault : SourceFault} :
    table name file = .error fault ↔ Flawed (records file) fault := by
  cases hrecords : records file with
  | nil =>
    rw [table, hrecords, tableOfRecords]
    constructor
    · rintro ⟨⟩
      exact .empty
    · rintro ⟨⟩
      rfl
  | cons header rs =>
    obtain ⟨x, hx, hfails⟩ := failsBy_table name hrecords
    rw [hx, mapError_eq_error_iff]
    constructor
    · rintro ⟨fault, hfault, rfl⟩
      exact .record ((hfails fault).1 hfault)
    · rintro (_ | hfirst)
      exact ⟨_, (hfails _).2 hfirst, rfl⟩

/-- **Which files hold a table.** -/
theorem exists_table_eq_ok_iff : (∃ t, table name file = .ok t) ↔ Tabular (records file) := by
  cases hrecords : records file with
  | nil => simp [table, hrecords, tableOfRecords, Tabular]
  | cons header rs =>
    obtain ⟨x, hx, hfails⟩ := failsBy_table name hrecords
    simp only [hx, mapError_eq_ok_iff]
    rw [hfails.exists_ok_iff, exists_firstOf_iff]
    simp [Tabular, Record.exists_wrong_iff]

/-- **What the table of a file is**: all records are in it, as they are and in
their order. -/
theorem table_eq_ok_iff :
    table name file = .ok t ↔ ∃ columns rows,
      (records file).map Record.fields = (columns :: rows).map (List.map Text.bytes) ∧
        (∀ row ∈ rows, row.length = columns.length) ∧ t = .make name columns rows := by
  constructor
  · intro h
    obtain ⟨header, rs, columns, rows, hrecords, hcolumns, hrows, rfl⟩ := exists_of_table h
    have hheader : header.fields = columns.map Text.bytes := Record.fields_eq_of_texts hcolumns
    have hfields : rs.map Record.fields = rows.map (List.map Text.bytes) := by
      have hpairs := (mapM_eq_ok_iff.1 hrows).imp fun _ _ => Record.fields_eq_of_row
      rwa [← List.forall₂_eq_eq_eq, List.forall₂_map_left_iff, List.forall₂_map_right_iff]
    refine ⟨columns, rows, ?_, ?_, rfl⟩
    · rw [hrecords, List.map_cons, List.map_cons, hheader, hfields]
    · intro row hrow
      obtain ⟨r, -, hr⟩ := exists_mem_of_mapM_eq_ok hrows row hrow
      rw [Record.length_of_row hr, Record.length_of_texts hcolumns]
  · rintro ⟨columns, rows, hfields, hwidth, rfl⟩
    exact table_eq_ok hfields hwidth

end Csv

end TableQuery
