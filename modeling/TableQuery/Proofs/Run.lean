import TableQuery.Proofs.Output.ClauseDump
import TableQuery.Proofs.Output.Rows
import TableQuery.Proofs.Query.Answer
import TableQuery.Run

/-!
# Runs — what reaches the output

A run has a whole output: the dump, if one was asked for and the query can
be read, and behind it the rendering of the result, if there is one. The
sink gets the beginning of it that it has room for, and with room for all of
it the run ends as the query does.
-/

namespace TableQuery

namespace Request

variable {files : Files} {r : Request} {cs : List Clause} {s : Output.Sink}

/-- The answer to the query of a request. -/
def answer (files : Files) (r : Request) : Except QueryError ResultSet :=
  executeQuery (r.source files) r.query

/-- The dump that a request asks for. -/
def dumped (r : Request) : List UInt8 :=
  match r.dump, parseQuery r.query with
  | some format, .ok cs => Text.bytes (Output.dumpText format cs)
  | _, _ => []

/-- The result of a request, written in full. -/
def rendered (files : Files) (r : Request) : List UInt8 :=
  match r.answer files with
  | .ok result => Output.rendering r.settings.output.format r.settings.output.separator result
  | .error _ => []

/-- How a request ends where nothing fills up. -/
def verdict (files : Files) (r : Request) : Except Failure Unit :=
  match r.answer files with
  | .ok _ => .ok ()
  | .error e => .error (.query e)

/-! ## The scripts of a request -/

theorem dumpScript_bytes (h : parseQuery r.query = .ok cs) :
    (r.dumpScript cs).bytes = r.dumped := by
  rw [dumped, dumpScript, h]
  cases r.dump with
  | none => rfl
  | some format => exact Output.dumpScript_bytes format cs

theorem dumpScript_failure (r : Request) (cs : List Clause) : (r.dumpScript cs).failure = none := by
  rw [dumpScript]
  cases r.dump with
  | none => rfl
  | some format => rfl

theorem answer_of_parseQuery (h : parseQuery r.query = .ok cs) :
    r.answer files = execute (r.source files) cs := by
  rw [answer, executeQuery, h]
  rfl

end Request

namespace Output

variable {script : Script} {s : Sink}

/-- A script as part of a run: where it fits it succeeds. -/
theorem Script.perform_of_fits (hfailure : script.failure = none)
    (h : s.fits script.bytes = true) : script.perform s = (s.put script.bytes, .ok ()) := by
  rw [Script.perform, Script.run_of_fits h, hfailure]
  rfl

/-- And where it does not, that ends the run. -/
theorem Script.perform_of_not_fits (h : s.fits script.bytes = false) :
    ∃ fault, script.perform s = (s.put script.bytes, .error (.output fault)) := by
  obtain ⟨fault, hrun⟩ := Script.run_of_not_fits h
  exact ⟨fault, by rw [Script.perform, hrun]; rfl⟩

end Output

/-- What a request does behind its dump. -/
def Request.finish (files : Files) (r : Request) (cs : List Clause) (s : Output.Sink) :
    Output.Sink × Except Failure Unit :=
  match execute (r.source files) cs with
  | .error e => (s, .error (.query e))
  | .ok result => (r.resultScript result).perform s

variable {files : Files} {r : Request} {cs : List Clause} {s : Output.Sink}

/-! ## Behind the dump -/

/-- A result has rows of even width, so nothing but the sink can stop it. -/
theorem Request.resultScript_of_answer {result : ResultSet} (h : r.answer files = .ok result) :
    (r.resultScript result).bytes = r.rendered files ∧ (r.resultScript result).failure = none := by
  have hwidth : ∀ row ∈ result.rows, row.length = result.columns.length := by
    rw [answer, executeQuery] at h
    obtain ⟨cs, -, hresult⟩ := bind_eq_ok_iff.1 h
    exact length_of_mem_rows hresult
  rw [rendered, h]
  exact Output.resultScript_of_width hwidth _ _

theorem Request.finish_of_fits (hparse : parseQuery r.query = .ok cs)
    (h : s.fits (r.rendered files) = true) :
    r.finish files cs s = (s.put (r.rendered files), r.verdict files) := by
  have hanswer : r.answer files = execute (r.source files) cs := answer_of_parseQuery hparse
  rw [finish, ← hanswer]
  cases hresult : r.answer files with
  | error e => simp [rendered, verdict, hresult]
  | ok result =>
    obtain ⟨hbytes, hfailure⟩ := resultScript_of_answer hresult
    have hperform := Output.Script.perform_of_fits hfailure (hbytes ▸ h)
    rw [hbytes] at hperform
    simp only [hperform, verdict, hresult]

theorem Request.finish_of_not_fits (hparse : parseQuery r.query = .ok cs)
    (h : s.fits (r.rendered files) = false) :
    ∃ fault, r.finish files cs s = (s.put (r.rendered files), .error (.output fault)) := by
  have hanswer : r.answer files = execute (r.source files) cs := answer_of_parseQuery hparse
  rw [finish, ← hanswer]
  cases hresult : r.answer files with
  | error e => simp [rendered, hresult] at h
  | ok result =>
    obtain ⟨hbytes, -⟩ := resultScript_of_answer hresult
    rw [← hbytes]
    exact Output.Script.perform_of_not_fits (hbytes ▸ h)

/-! ## The whole run -/

theorem run_of_parse_error {e : QueryError} (h : parseQuery r.query = .error e) :
    run files r s = (s, .error (.query e)) := by
  rw [run, h]

theorem run_of_dump_fits (hparse : parseQuery r.query = .ok cs) (h : s.fits r.dumped = true) :
    run files r s = r.finish files cs (s.put r.dumped) := by
  have hbytes := Request.dumpScript_bytes hparse
  have hperform := Output.Script.perform_of_fits (r.dumpScript_failure cs) (hbytes ▸ h)
  rw [hbytes] at hperform
  rw [run, hparse]
  simp only [hperform]
  rfl

theorem run_of_dump_not_fits (hparse : parseQuery r.query = .ok cs)
    (h : s.fits r.dumped = false) :
    ∃ fault, run files r s = (s.put r.dumped, .error (.output fault)) := by
  have hbytes := Request.dumpScript_bytes hparse
  obtain ⟨fault, hperform⟩ := Output.Script.perform_of_not_fits (hbytes ▸ h)
  rw [hbytes] at hperform
  refine ⟨fault, ?_⟩
  rw [run, hparse]
  simp only [hperform]

/-- All that a run writes where nothing fills up. -/
def Request.output (files : Files) (r : Request) : List UInt8 :=
  r.dumped ++ r.rendered files

theorem Request.output_of_parse_error {e : QueryError} (h : parseQuery r.query = .error e) :
    r.output files = [] := by
  have hanswer : r.answer files = .error e := by
    rw [answer, executeQuery, h]
    rfl
  rw [output, dumped, rendered, h, hanswer]
  cases r.dump <;> rfl

/-- **A run that fits ends as its query does.** -/
theorem run_of_fits (h : s.fits (r.output files) = true) :
    run files r s = (s.put (r.output files), r.verdict files) := by
  cases hparse : parseQuery r.query with
  | error e =>
    rw [run_of_parse_error hparse, Request.output_of_parse_error hparse, Output.Sink.put_nil,
      Request.verdict, Request.answer, executeQuery, hparse]
    rfl
  | ok cs =>
    rw [Request.output, Output.Sink.fits_append, Bool.and_eq_true] at h
    rw [run_of_dump_fits hparse h.1, Request.finish_of_fits hparse h.2, Request.output,
      Output.Sink.put_append]

/-- **A run that does not fit breaks off where the sink is full.** The sink
is full either in the dump, and then the query is not executed, or behind
it. -/
theorem run_of_not_fits (h : s.fits (r.output files) = false) :
    ∃ fault, run files r s = (s.put (r.output files), .error (.output fault)) := by
  cases hparse : parseQuery r.query with
  | error e =>
    rw [Request.output_of_parse_error hparse, Output.Sink.fits_nil] at h
    cases h
  | ok cs =>
    rw [Request.output, Output.Sink.put_append]
    cases hdump : s.fits r.dumped with
    | true =>
      rw [Request.output, Output.Sink.fits_append, hdump, Bool.true_and] at h
      rw [run_of_dump_fits hparse hdump]
      exact Request.finish_of_not_fits hparse h
    | false =>
      rw [Output.Sink.put_put_of_not_fits hdump]
      exact run_of_dump_not_fits hparse hdump

/-- **What a run leaves in an output with room for `k` bytes**: the first
`k` bytes of the dump and the result behind it. With room for all of them
the run ends as the query does, dump or no dump; otherwise it ends in a
failure of the output. A query that fails leaves nothing of a result. -/
theorem run_of_room (files : Files) (r : Request) (k : Nat) :
    (run files r { room := some k }).1.accepted = (r.dumped ++ r.rendered files).take k ∧
    ((r.dumped ++ r.rendered files).length ≤ k →
      (run files r { room := some k }).2 = (run files r {}).2) ∧
    (k < (r.dumped ++ r.rendered files).length →
      ∃ f, (run files r { room := some k }).2 = .error f ∧ f.exitCode = 74) ∧
    (run files r {}).2 = r.verdict files ∧
    (run files { r with dump := none } {}).2 = r.verdict files ∧
    ∀ e, r.answer files = .error e →
      (run files r { room := some k }).1.accepted <+: r.dumped := by
  have hput (bs : List UInt8) : (({ room := some k } : Output.Sink).put bs).accepted = bs.take k :=
    rfl
  have hfree : (run files r {}).2 = r.verdict files := by rw [run_of_fits rfl]
  have haccepted : (run files r { room := some k }).1.accepted =
      (r.dumped ++ r.rendered files).take k := by
    cases hfits : ({ room := some k } : Output.Sink).fits (r.output files) with
    | true => rw [run_of_fits hfits, hput, Request.output]
    | false =>
      obtain ⟨fault, hrun⟩ := run_of_not_fits hfits
      rw [hrun, hput, Request.output]
  refine ⟨haccepted, fun hroom => ?_, fun hroom => ?_, hfree, by rw [run_of_fits rfl]; rfl,
    fun e he => ?_⟩
  · have hfits : ({ room := some k } : Output.Sink).fits (r.output files) = true :=
      decide_eq_true hroom
    rw [hfree, run_of_fits hfits]
  · have hfits : ({ room := some k } : Output.Sink).fits (r.output files) = false :=
      decide_eq_false (Nat.not_le_of_lt hroom)
    obtain ⟨fault, hrun⟩ := run_of_not_fits hfits
    exact ⟨.output fault, by rw [hrun], rfl⟩
  · have hnone : r.rendered files = [] := by rw [Request.rendered, he]
    rw [haccepted, hnone, List.append_nil]
    exact List.take_prefix k r.dumped

/-- Two runs on a table of one cell. The first has room for the dump and
for all of the records but the last line break. The query of the second
fails, and behind its dump there is nothing. -/
theorem run_of_room_oneCell :
    let files : Files := ⟨fun _ => true, fun _ => .ok (Text.bytes "a\n1\n")⟩
    let cut : Request := ⟨"SELECT * FROM t", { output.format := .csv }, some .json⟩
    let failing : Request := ⟨"SELECT b FROM t", {}, some .text⟩
    (run files cut { room := some 107 }).1.accepted = Text.bytes
        ("[\n  \x7b\n    \"type\": \"SELECT\",\n    \"columns\": \"*\"\n  \x7d,\n" ++
          "  \x7b\n    \"type\": \"FROM\",\n    \"table_name\": \"t\"\n  \x7d\n]\nA\n1") ∧
      (∃ f, (run files cut { room := some 107 }).2 = .error f ∧ f.exitCode = 74) ∧
      (run files failing { room := some 106 }).1.accepted = Text.bytes
        ("Abstract Syntax Tree:\nSelect(SelectClause \x7b columns: Named([\"B\"]) \x7d)\n" ++
          "From(FromClause \x7b table_name: \"t\" \x7d)\n") ∧
      (run files failing { room := some 106 }).2 = .error (.query (.unknownColumn "B")) := by
  intro files cut failing
  obtain ⟨hcut, -, hfull, -⟩ := run_of_room files cut 107
  obtain ⟨hfailing, hroom, -, hverdict, -⟩ := run_of_room files failing 106
  have hlong : 107 < (cut.dumped ++ cut.rendered files).length := by decide +kernel
  have hshort : (failing.dumped ++ failing.rendered files).length ≤ 106 := by decide +kernel
  refine ⟨hcut.trans (by decide +kernel), hfull hlong, hfailing.trans (by decide +kernel), ?_⟩
  rw [hroom hshort, hverdict]
  decide +kernel

end TableQuery
