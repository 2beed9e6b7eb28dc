import TableQuery.Proofs.Csv.Table
import TableQuery.Proofs.Storage.Path
import TableQuery.Storage.Tree

/-!
# Containment — where the file of a table can lie

The file of a table that is not named from the root lies in the base
directory or below it, if the directories of its name never go further up
than down (`tablePath_points`). The ending of the file keeps the last name
from being one of the steps. In a tree of files each name leads where it
leads by itself, if it leads anywhere, so a table that was loaded was read
there (`exists_entry_of_source`).
-/

namespace TableQuery

namespace FileTree

variable {t : FileTree} {place found names : List String} {name path : String}
variable {content : List UInt8}

/-- A step in a tree either stays where it is or leads where it leads by
itself. -/
theorem follow_step (h : t.follow place (name :: names) = .ok found) :
    (name = "" ∨ name = ".") ∧ t.follow place names = .ok found ∨
      ¬ (name = "" ∨ name = ".") ∧ t.follow (Path.step place name) names = .ok found := by
  rw [follow] at h
  split at h
  · by_cases hempty : name = "" ∨ name = "."
    · rw [if_pos hempty] at h
      exact .inl ⟨hempty, h⟩
    · rw [if_neg hempty] at h
      refine .inr ⟨hempty, ?_⟩
      rw [Path.step]
      by_cases hup : name = ".."
      · rwa [if_pos hup] at h ⊢
      · rw [if_neg hup] at h ⊢
        split at h
        · cases h
        · split at h
          · exact h
          · cases h
  · cases h
  · cases h

/-- And so do the names of a path one after the other. -/
theorem walk_of_follow (h : t.follow place names = .ok found) :
    Path.walk place (names.filter fun part => part ≠ "" ∧ part ≠ ".") = found := by
  induction names generalizing place with
  | nil =>
    cases h
    rfl
  | cons name names ih =>
    rcases follow_step h with ⟨hempty, hrest⟩ | ⟨hempty, hrest⟩
    · rw [List.filter_cons_of_neg (by simpa [or_iff_not_imp_left] using hempty)]
      exact ih hrest
    · rw [List.filter_cons_of_pos (by simpa [not_or] using hempty)]
      exact ih hrest

/-- **A path that leads anywhere in a tree** leads to its place. -/
theorem place_of_locate (h : t.locate path = .ok found) : Path.place t.home path = found := by
  unfold locate at h
  split at h
  · cases h
  · split at h
    · cases h
    · split at h
      · cases h
      · exact walk_of_follow h

/-- What is read lies at the place of the path. -/
theorem entry?_of_read (h : t.read path = .ok content) :
    t.entry? (Path.place t.home path) = some (.file content) := by
  unfold read at h
  split at h
  · cases h
  · rename_i found hlocate
    rw [place_of_locate hlocate]
    split at h
    · rename_i hentry
      cases h
      exact hentry
    · cases h
    · cases h

end FileTree

namespace TableFolder

variable {base name file : String} {home place : List String} {table : Table} {t : FileTree}

/-! ## The ending of the file -/

theorem isAbsolute_append_csv (name : String) :
    Path.isAbsolute (name ++ ".csv") = Path.isAbsolute name := by
  rw [Path.isAbsolute, Path.isAbsolute, String.toList_append]
  cases name.toList <;> rfl

/-- A name with the ending is longer than any of the steps. -/
theorem append_csv_ne (file : String) {s : String} (h : s.length < 4) : file ++ ".csv" ≠ s := by
  rintro rfl
  rw [String.length_append] at h
  have hending : ".csv".length = 4 := rfl
  omega

/-- **The ending stands in the last name**, which is behind all directories
of the name. -/
theorem exists_components_append_csv (name : String) :
    ∃ file, Path.components (name ++ ".csv") = Path.directories name ++ [file ++ ".csv"] := by
  obtain ⟨front, last, hbehind⟩ := Path.exists_splitChars_append name.toList
  have hname : Path.parts name = front.map String.ofList ++ [String.ofList last] := by
    have hparts := hbehind [] List.not_mem_nil
    rw [List.append_nil, List.append_nil] at hparts
    rw [Path.parts, hparts, List.map_append]
    rfl
  have hfile : Path.parts (name ++ ".csv") =
      front.map String.ofList ++ [String.ofList last ++ ".csv"] := by
    rw [Path.parts, String.toList_append, hbehind ".csv".toList (by decide), List.map_append,
      List.map_singleton, String.ofList_append]
    rfl
  refine ⟨String.ofList last, ?_⟩
  rw [Path.components, hfile, Path.directories, hname, List.dropLast_concat, List.filter_append]
  congr 1
  refine List.filter_eq_self.2 fun part hpart => ?_
  obtain rfl := List.mem_singleton.1 hpart
  exact decide_eq_true ⟨append_csv_ne _ (by decide), append_csv_ne _ (by decide)⟩

/-- The file itself never leads up. -/
theorem stays_append_csv_iff : Path.Stays place (Path.components (name ++ ".csv")) ↔
    place = [] ∨ Path.Balanced (Path.directories name) := by
  obtain ⟨file, hfile⟩ := exists_components_append_csv name
  rw [hfile, Path.stays_iff, Path.balanced_concat_iff_of_ne (append_csv_ne file (by decide))]

/-! ## Paths of tables -/

/-- The path of a name from the root is the name with its ending. -/
theorem tablePath_of_isAbsolute (base : String) (h : Path.isAbsolute name) :
    tablePath base name = name ++ ".csv" := by
  rw [tablePath, Path.join, if_pos ((isAbsolute_append_csv name).trans h)]

theorem not_isAbsolute_append_csv (h : ¬ Path.isAbsolute name) :
    ¬ Path.isAbsolute (name ++ ".csv") := by
  rwa [isAbsolute_append_csv]

/-- The path of any other name goes on from its base. -/
theorem place_tablePath (h : ¬ Path.isAbsolute name) (home : List String) :
    Path.place home (tablePath base name) =
      Path.walk (Path.place home base) (Path.components (name ++ ".csv")) := by
  have hcsv := not_isAbsolute_append_csv h
  rw [tablePath, Path.place, Path.isAbsolute_join hcsv, Path.components_join hcsv,
    Path.walk_append]
  rfl

theorem exists_getLast?_components_tablePath (base name : String) :
    ∃ file, (Path.components (tablePath base name)).getLast? = some (file ++ ".csv") := by
  obtain ⟨file, hfile⟩ := exists_components_append_csv name
  refine ⟨file, ?_⟩
  by_cases h : Path.isAbsolute name
  · rw [tablePath_of_isAbsolute base h, hfile, List.getLast?_concat]
  · rw [tablePath, Path.components_join (not_isAbsolute_append_csv h), hfile, ← List.append_assoc,
      List.getLast?_concat]

/-- **A table that was loaded was read from a file below the base** or in
it, if the directories of its name are balanced. -/
theorem exists_entry_of_source (hname : ¬ Path.isAbsolute name)
    (hbalanced : Path.Balanced (Path.directories name))
    (h : source t.files base name = .ok table) :
    ∃ below file content,
      t.entry? (Path.place t.home base ++ below ++ [file ++ ".csv"]) = some (.file content) ∧
        Csv.table name content = .ok table := by
  obtain ⟨content, hread, htable⟩ := exists_of_source h
  obtain ⟨file, hfile⟩ := exists_components_append_csv name
  obtain ⟨below, hwalk, -⟩ := Path.exists_walk_eq_append (Path.place t.home base) hbalanced
  have hplace : Path.place t.home (tablePath base name) =
      Path.place t.home base ++ below ++ [file ++ ".csv"] := by
    rw [place_tablePath hname, hfile, Path.walk_concat, hwalk, Path.step,
      if_neg (append_csv_ne file (by decide))]
  have hentry := FileTree.entry?_of_read hread
  rw [hplace] at hentry
  exact ⟨below, file, content, hentry, htable⟩

/-- **Where the path of a table points.** A name from the root is its own
path, whatever the base. Any other name goes on from the base, and never
leaves it exactly if its directories are balanced or the base is the root;
no two such names have one path. The last name is always that of a file with
the ending. -/
theorem tablePath_points (base name : String) :
    (Path.isAbsolute name →
      Path.isAbsolute (tablePath base name) ∧
      Path.components (tablePath base name) = Path.components (name ++ ".csv") ∧
      ∀ other, tablePath other name = tablePath base name) ∧
    (¬ Path.isAbsolute name →
      Path.isAbsolute (tablePath base name) = Path.isAbsolute base ∧
      Path.components (tablePath base name) =
        Path.components base ++ Path.components (name ++ ".csv") ∧
      (∀ home, Path.place home (tablePath base name) =
          Path.walk (Path.place home base) (Path.components (name ++ ".csv")) ∧
        (Path.Stays (Path.place home base) (Path.components (name ++ ".csv")) ↔
          Path.place home base = [] ∨ Path.Balanced (Path.directories name))) ∧
      ∀ other, ¬ Path.isAbsolute other → tablePath base name = tablePath base other →
        name = other) ∧
    ∃ file, (Path.components (tablePath base name)).getLast? = some (file ++ ".csv") ∧
      file ++ ".csv" ≠ "." ∧ file ++ ".csv" ≠ ".." := by
  refine ⟨fun habsolute => ?_, fun hrelative => ?_, ?_⟩
  · have hpath (other : String) : tablePath other name = name ++ ".csv" :=
      tablePath_of_isAbsolute other habsolute
    rw [hpath base]
    exact ⟨(isAbsolute_append_csv name).trans habsolute, rfl, hpath⟩
  · have hcsv := not_isAbsolute_append_csv hrelative
    refine ⟨Path.isAbsolute_join hcsv, Path.components_join hcsv,
      fun home => ⟨place_tablePath hrelative home, stays_append_csv_iff⟩,
      fun other hother hpath => ?_⟩
    exact (String.append_left_inj ".csv").1
      (Path.join_injective hcsv (not_isAbsolute_append_csv hother) hpath)
  · obtain ⟨file, hlast⟩ := exists_getLast?_components_tablePath base name
    exact ⟨file, hlast, append_csv_ne file (by decide), append_csv_ne file (by decide)⟩

/-- A name that goes up no further than it went down, one that leaves the base
and comes back into it, and one from the root. -/
theorem tablePath_points_dots :
    (¬ Path.isAbsolute "a/.././/b" ∧ Path.Balanced (Path.directories "a/.././/b") ∧
      Path.components (tablePath "data/" "a/.././/b") = ["data", "a", "..", "b.csv"] ∧
      Path.Stays ["home", "data"] ["a", "..", "b.csv"]) ∧
    (¬ Path.isAbsolute "../data/b" ∧
      Path.place ["home"] (tablePath "data/" "../data/b") = ["home", "data", "b.csv"] ∧
      ¬ Path.Stays ["home", "data"] ["..", "data", "b.csv"] ∧
      tablePath "data/" "a/.././/b" ≠ tablePath "data/" "../data/b") ∧
    (Path.isAbsolute "/b" ∧ Path.components (tablePath "data/" "/b") = ["b.csv"] ∧
      tablePath "" "/b" = tablePath "data/" "/b") := by
  have hcalm : ¬ Path.isAbsolute "a/.././/b" := by decide
  have hescape : ¬ Path.isAbsolute "../data/b" := by decide
  have hroot : Path.isAbsolute "/b" := by decide
  obtain ⟨-, hrelative, -⟩ := tablePath_points "data/" "a/.././/b"
  obtain ⟨-, hcalmNames, hcalmPlace, hdifferent⟩ := hrelative hcalm
  obtain ⟨-, hrelative, -⟩ := tablePath_points "data/" "../data/b"
  obtain ⟨-, -, hescapePlace, -⟩ := hrelative hescape
  obtain ⟨habsolute, -, -⟩ := tablePath_points "data/" "/b"
  obtain ⟨-, hrootNames, hrootPath⟩ := habsolute hroot
  have hbalanced : Path.Balanced (Path.directories "a/.././/b") := by decide
  have hleaves : ¬ (Path.place ["home"] "data/" = [] ∨
      Path.Balanced (Path.directories "../data/b")) := by decide
  refine ⟨⟨hcalm, hbalanced, hcalmNames, (hcalmPlace ["home"]).2.2 (.inr hbalanced)⟩,
    ⟨hescape, (hescapePlace ["home"]).1, fun h => hleaves ((hescapePlace ["home"]).2.1 h),
      fun h => ?_⟩,
    ⟨hroot, hrootNames, hrootPath ""⟩⟩
  exact absurd (hdifferent "../data/b" hescape h) (by decide)

end TableFolder

end TableQuery
