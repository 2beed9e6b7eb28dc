import TableQuery.Output.ClauseDump
import TableQuery.Proofs.Output.Json.Print
import TableQuery.Proofs.Output.Json.Read
import TableQuery.Proofs.Output.Lines
import TableQuery.Proofs.Output.Rows
import TableQuery.Proofs.Text.Quoted
import TableQuery.Text.Utf8

/-!
# Clause dump — nothing is lost in it

Either kind of dump tells which clauses were dumped: a text dump by its
lines, of which each shows one clause, and a JSON dump by the value that it
spells.
-/

namespace TableQuery

namespace Output

/-! ## Clauses in notation

The texts of a clause are quoted, so they show where they end, and what
stands between them is fixed by the kind of the clause. The kinds are told
apart by their first letter, and so are the selections. So a clause in
notation shows where it ends and which clause it is
(`delimited_clauseText`), and it stands on one line
(`lineFeed_notMem_clauseText`). -/

open Text.Quoted

theorem toList_quoted (s : String) : (Text.quoted s).toList = chars s :=
  String.toList_ofList

/-! ### Selections -/

theorem toList_listText (items : List String) : (listText items).toList =
    ['['] ++ ([',', ' '].intercalate (items.map chars) ++ [']']) := by
  simp [listText, String.toList_intercalate, Function.comp_def, toList_quoted]

/-- Neither a quote nor a comma closes a list. -/
theorem delimited_listText : Text.Delimited fun items => (listText items).toList := by
  have hitems : Text.Delimited fun items : List String =>
      [',', ' '].intercalate (items.map chars) ++ [']'] :=
    delimited_chars.intercalate (fun _ _ _ => chars_append_ne (by decide)) (by simp)
  rw [funext toList_listText]
  exact hitems.behind ['[']

theorem delimited_selectionText : Text.Delimited fun s => (selectionText s).toList := by
  intro s s' xs ys heq
  cases s with
  | all =>
    cases s' with
    | all => exact ⟨rfl, List.append_cancel_left heq⟩
    | named columns => simp [selectionText] at heq
  | named columns =>
    cases s' with
    | all => simp [selectionText] at heq
    | named columns' =>
      have hnamed := (delimited_listText.behind "Named(".toList).before ")".toList
      simp only [selectionText, String.toList_append] at heq
      obtain ⟨rfl, hrest⟩ := hnamed columns columns' xs ys heq
      exact ⟨rfl, hrest⟩

theorem lineFeed_notMem_selectionText (s : Selection) : '\n' ∉ (selectionText s).toList := by
  cases s with
  | all => decide
  | named columns =>
    have hcolumns : '\n' ∉ (listText columns).toList := by
      rw [toList_listText]
      cases columns with
      | nil => decide
      | cons column columns =>
        rw [List.map_cons, Text.intercalate_cons]
        simp [lineFeed_notMem_chars]
    simpa [selectionText] using hcolumns

/-! ### Clauses -/

theorem toList_clauseText_select (s : Selection) : (clauseText (.select s)).toList =
    "Select(SelectClause \x7b columns: ".toList ++
      ((selectionText s).toList ++ " \x7d)".toList) := by
  simp [clauseText, recordText]

theorem toList_clauseText_source (table : String) : (clauseText (.source table)).toList =
    "From(FromClause \x7b table_name: ".toList ++ (chars table ++ " \x7d)".toList) := by
  simp [clauseText, recordText, toList_quoted]

theorem toList_clauseText_filter (c : Condition) : (clauseText (.filter c)).toList =
    "Where(WhereClause \x7b left_column: ".toList ++ (chars c.column ++
      (", operator: ".toList ++ (chars c.operator ++
        (", right_literal: ".toList ++ (chars c.value ++ " \x7d)".toList))))) := by
  simp [clauseText, recordText, toList_quoted]

theorem toList_clauseText_limit (count : String) : (clauseText (.limit count)).toList =
    "Limit(LimitClause \x7b count: ".toList ++ (chars count ++ " \x7d)".toList) := by
  simp [clauseText, recordText, toList_quoted]

/-- **A clause in notation shows where it ends** and which clause it is. -/
theorem delimited_clauseText : Text.Delimited fun c => (clauseText c).toList := by
  intro c d xs ys heq
  cases c with
  | select s =>
    cases d with
    | select s' =>
      simp only [toList_clauseText_select, List.append_assoc] at heq
      obtain ⟨rfl, hrest⟩ := delimited_selectionText s s' _ _ (List.append_cancel_left heq)
      exact ⟨rfl, List.append_cancel_left hrest⟩
    | _ => simp [clauseText] at heq
  | source table =>
    cases d with
    | source table' =>
      simp only [toList_clauseText_source, List.append_assoc] at heq
      obtain ⟨rfl, hrest⟩ := delimited_chars table table' _ _ (List.append_cancel_left heq)
      exact ⟨rfl, List.append_cancel_left hrest⟩
    | _ => simp [clauseText] at heq
  | filter condition =>
    cases d with
    | filter condition' =>
      obtain ⟨column, operator, value⟩ := condition
      obtain ⟨column', operator', value'⟩ := condition'
      simp only [toList_clauseText_filter, List.append_assoc] at heq
      obtain ⟨rfl, hoperator⟩ := delimited_chars column column' _ _ (List.append_cancel_left heq)
      obtain ⟨rfl, hvalue⟩ :=
        delimited_chars operator operator' _ _ (List.append_cancel_left hoperator)
      obtain ⟨rfl, hrest⟩ := delimited_chars value value' _ _ (List.append_cancel_left hvalue)
      exact ⟨rfl, List.append_cancel_left hrest⟩
    | _ => simp [clauseText] at heq
  | limit count =>
    cases d with
    | limit count' =>
      simp only [toList_clauseText_limit, List.append_assoc] at heq
      obtain ⟨rfl, hrest⟩ := delimited_chars count count' _ _ (List.append_cancel_left heq)
      exact ⟨rfl, List.append_cancel_left hrest⟩
    | _ => simp [clauseText] at heq

/-- **A clause in notation stands on one line**, whatever its texts hold. -/
theorem lineFeed_notMem_clauseText (c : Clause) : '\n' ∉ (clauseText c).toList := by
  cases c with
  | select s => simp [toList_clauseText_select, lineFeed_notMem_selectionText]
  | source table => simp [toList_clauseText_source, lineFeed_notMem_chars]
  | filter condition => simp [toList_clauseText_filter, lineFeed_notMem_chars]
  | limit count => simp [toList_clauseText_limit, lineFeed_notMem_chars]

/-! ## The bytes of a dump

The lines and characters that a dump goes out in are those of its text. -/

/-- A dump as one text. -/
def dumpText (format : DumpFormat) (cs : List Clause) : String :=
  match format with
  | .text => textDump cs
  | .json => jsonDump cs ++ "\n"

/-- **A dump is written in full.** -/
theorem dumpScript_bytes (format : DumpFormat) (cs : List Clause) :
    (dumpScript format cs).bytes = Text.bytes (dumpText format cs) := by
  cases format with
  | text =>
    simp [dumpText, textDump, Text.bytes_append, Text.bytes_join, dumpScript, Script.bytes,
      List.flatMap_map]
  | json =>
    simp [dumpText, dumpScript, Script.bytes, List.flatMap_map, Text.bytes, Text.encode]

/-! ## The lines of a dump

A text dump is cut at its line breaks into its title and the clauses in
notation, since no clause has a line break. A clause in notation says which
clause it is, so different clauses have different dumps. -/

variable {cs ds : List Clause}

/-- The lines of a text dump, without their ends. -/
def dumpLines (cs : List Clause) : List (List Char) :=
  "Abstract Syntax Tree:".toList :: cs.map fun c => (clauseText c).toList

theorem toList_textDump (cs : List Clause) :
    (textDump cs).toList = (dumpLines cs).flatMap (· ++ ['\n']) := by
  have htitle : dumpTitle.toList = "Abstract Syntax Tree:".toList ++ ['\n'] := by decide
  have hline (c : Clause) : (clauseLine c).toList = (clauseText c).toList ++ ['\n'] := by
    simp [clauseLine]
  rw [textDump, String.toList_append, String.toList_join, List.flatMap_map, htitle, dumpLines,
    List.flatMap_cons, List.flatMap_map]
  simp only [hline]

theorem lineFeed_notMem_dumpLines : ∀ line ∈ dumpLines cs, '\n' ∉ line := by
  refine List.forall_mem_cons.2 ⟨by decide, ?_⟩
  exact List.forall_mem_map.2 fun c _ => lineFeed_notMem_clauseText c

theorem cut_textDump (cs : List Clause) :
    Text.cut ['\n'] (textDump cs).toList = dumpLines cs ++ [[]] := by
  rw [toList_textDump, Text.cut_lines lineFeed_notMem_dumpLines]

theorem count_textDump (cs : List Clause) : (textDump cs).toList.count '\n' = cs.length + 1 := by
  rw [toList_textDump, Text.count_lines lineFeed_notMem_dumpLines, dumpLines, List.length_cons,
    List.length_map]

/-- **Different clauses have different text dumps.** -/
theorem textDump_injective : Function.Injective textDump := by
  intro cs ds h
  -- the lines are what the dump is cut into
  have hlines : dumpLines cs = dumpLines ds := by
    have hcut := cut_textDump cs
    rw [h, cut_textDump ds] at hcut
    exact (List.append_cancel_right hcut).symm
  have hclause : Function.Injective fun c => (clauseText c).toList :=
    delimited_clauseText.injective
  exact hclause.list_map (List.cons_eq_cons.1 hlines).2

/-- **A text dump is a title and one line for each clause, and holds the
clauses.** It is written in full, it has a line break at the end of each
line and no other, and no other clauses have the same bytes. -/
theorem run_dumpScript_text :
    (∀ cs : List Clause,
      (dumpScript .text cs).run {} = ({ accepted := Text.bytes (textDump cs) }, .ok ()) ∧
      (textDump cs).toList.count '\n' = cs.length + 1 ∧
      Text.cut ['\n'] (textDump cs).toList =
        "Abstract Syntax Tree:".toList :: cs.map (fun c => (clauseText c).toList) ++ [[]]) ∧
    Function.Injective fun cs => (dumpScript .text cs).bytes := by
  have hbytes (cs : List Clause) : (dumpScript .text cs).bytes = Text.bytes (textDump cs) :=
    dumpScript_bytes .text cs
  refine ⟨fun cs => ⟨?_, count_textDump cs, cut_textDump cs⟩, fun cs ds heq => ?_⟩
  · have hfits : Sink.fits {} (dumpScript .text cs).bytes = true := rfl
    rw [Script.run_of_fits hfits, Sink.put, hbytes]
    rfl
  · have htext : some (textDump cs) = some (textDump ds) := by
      rw [← Text.ofBytes?_bytes, ← Text.ofBytes?_bytes, ← hbytes, ← hbytes]
      exact congrArg _ heq
    exact textDump_injective (Option.some.inj htext)

/-! ## Reading a dump back

A JSON dump goes through three layers and is read back through the same
ones: the clauses as values, the values as text and the text as bytes. So it
holds all there is to know about the clauses, whatever stands in their
texts. -/

theorem clausesOfJson?_map (cs : List Clause) :
    clausesOfJson? (.list (cs.map clauseJson)) = some cs := by
  rw [clausesOfJson?]
  induction cs with
  | nil => rfl
  | cons c cs ih => simp [clauseOfJson?_clauseJson, ih]

/-- A JSON dump is a list with a value for each clause. -/
theorem spells_jsonDump (cs : List Clause) :
    Json.Spells (.value (.list (cs.map clauseJson))) (jsonDump cs).toList := by
  rw [jsonDump, String.toList_ofList]
  exact Json.spells_pretty 0 _

/-- The line break behind the list is a blank. -/
theorem readDump_jsonDump (cs : List Clause) :
    readDump ((jsonDump cs).toList ++ ['\n']) = some cs := by
  have hlineFeed : Json.AreBlanks ['\n'] := by simp [Json.AreBlanks]
  have hspells : Json.Spells (.element (.list (cs.map clauseJson)))
      ([] ++ (jsonDump cs).toList ++ ['\n']) :=
    .element Json.areBlanks_nil (spells_jsonDump cs) hlineFeed
  rw [List.nil_append] at hspells
  rw [readDump, Json.read_eq_some_iff.2 hspells, Option.bind_some, clausesOfJson?_map]

theorem dumpScript_json_bytes (cs : List Clause) :
    (dumpScript .json cs).bytes = Text.encode ((jsonDump cs).toList ++ ['\n']) := by
  rw [dumpScript_bytes, dumpText, Text.bytes, String.toList_append]
  rfl

/-- **A JSON dump is read back** from its bytes. -/
theorem clausesOfBytes?_dumpScript (cs : List Clause) :
    clausesOfBytes? (dumpScript .json cs).bytes = some cs := by
  have htext : Text.ofBytes? (dumpScript .json cs).bytes = some (jsonDump cs ++ "\n") := by
    rw [dumpScript_bytes, dumpText, Text.ofBytes?_bytes]
  have hdump : (jsonDump cs ++ "\n").toList = (jsonDump cs).toList ++ ['\n'] := by simp
  rw [clausesOfBytes?, htext, Option.bind_some, hdump, readDump_jsonDump]

/-- Different clauses have different dumps. -/
theorem eq_of_dumpScript_json_bytes_eq
    (h : (dumpScript .json cs).bytes = (dumpScript .json ds).bytes) : cs = ds := by
  have hread := clausesOfBytes?_dumpScript cs
  rw [h, clausesOfBytes?_dumpScript ds] at hread
  exact (Option.some.inj hread).symm

/-- **A JSON dump is one list and a line break, and holds the clauses.** It is
written in full, its list spells the value of each clause, and the
bytes are read back as the clauses. So all columns are told from a column
named `*`, wherever they are selected. -/
theorem run_dumpScript_json :
    (∀ cs : List Clause, ∃ list : List Char,
      (dumpScript .json cs).run {} = ({ accepted := Text.encode (list ++ ['\n']) }, .ok ()) ∧
      Json.Spells (.value (.list (cs.map clauseJson))) list ∧
      clausesOfBytes? (Text.encode (list ++ ['\n'])) = some cs) ∧
    ∀ front back : List Clause,
      (dumpScript .json (front ++ .select .all :: back)).bytes ≠
        (dumpScript .json (front ++ .select (.named ["*"]) :: back)).bytes := by
  refine ⟨fun cs => ⟨(jsonDump cs).toList, ?_, spells_jsonDump cs, ?_⟩, fun front back heq => ?_⟩
  · have hfits : Sink.fits {} (dumpScript .json cs).bytes = true := rfl
    rw [Script.run_of_fits hfits, Sink.put, dumpScript_json_bytes]
    rfl
  · rw [← dumpScript_json_bytes]
    exact clausesOfBytes?_dumpScript cs
  · have hclauses := eq_of_dumpScript_json_bytes_eq heq
    simp at hclauses

end Output

end TableQuery
