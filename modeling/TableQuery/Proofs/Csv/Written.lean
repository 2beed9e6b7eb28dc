import TableQuery.Csv.Record
import TableQuery.Text.Utf8

/-!
# Records — reading them back from what was written

A written field is read into the bytes of its text, in quotes or without
them (`outline_field`), a written record into its fields, whatever follows
(`outline_recordPieces`), and so a written file into its records
(`map_fields_records_written`). The record of one empty field is the one
place where a blank line has to be kept away: it is written as a pair of
quotes.
-/

namespace TableQuery

namespace Csv

/-! ## Outlines

Which fields a reading gives depends neither on the places it has counted
nor on the number of records before. The outline of some bytes is what a
reading gives that has counted nothing; one law for each kind of byte says
how a byte in front changes it. -/

namespace Reader

/-- A reading that has counted nothing. -/
def bare (mode : Mode) (field : List UInt8) (fields : List (List UInt8)) : Reader :=
  ⟨mode, ⟨0, 0, 0⟩, 0, 0, field, fields⟩

/-- The reading without its places. -/
def forget (r : Reader) : Reader :=
  bare r.mode r.field r.fields

/-- **A byte does the same to a reading without its places.** -/
theorem forget_step (r : Reader) (b : UInt8) :
    (r.step b).1.forget = (r.forget.take b).1.forget ∧
      (r.step b).2.map Record.fields = (r.forget.take b).2.map Record.fields := by
  obtain ⟨mode, start, line, byte, field, fields⟩ := r
  cases mode with
  | quoted =>
    by_cases h : b = quote <;> simp [step, count, forget, bare, take, push, h]
  | between | fieldStart | plain | quoteSeen =>
    -- outside quotes one chain of tests serves every mode
    simp only [step, count, forget, bare, take]
    repeat' split
    all_goals simp [record, next, push, endField]

/-- What one byte gives comes in front of what the others give. -/
theorem map_fields_run_cons (r : Reader) (b : UInt8) (bs : List UInt8) :
    (r.run (b :: bs)).map Record.fields =
      ((r.step b).2.map Record.fields).toList ++ ((r.step b).1.run bs).map Record.fields := by
  rw [run]
  rcases r.step b with ⟨r', _ | record⟩ <;> rfl

theorem map_fields_run_congr {r r' : Reader} (h : r.forget = r'.forget) (bs : List UInt8) :
    (r.run bs).map Record.fields = (r'.run bs).map Record.fields := by
  induction bs generalizing r r' with
  | nil =>
    simp only [forget, bare, Reader.mk.injEq, true_and] at h
    obtain ⟨hmode, hfield, hfields⟩ := h
    simp only [run, last?, hmode]
    split <;> simp [record, hfield, hfields]
  | cons b bs ih =>
    obtain ⟨hforget, hrecord⟩ := forget_step r b
    obtain ⟨hforget', hrecord'⟩ := forget_step r' b
    rw [map_fields_run_cons, map_fields_run_cons, hrecord, hrecord', h,
      ih (hforget.trans (h ▸ hforget'.symm))]

end Reader

/-- The fields of the records that remain to be read. -/
def outline (mode : Mode) (field : List UInt8) (fields : List (List UInt8)) (bs : List UInt8) :
    List (List (List UInt8)) :=
  ((Reader.bare mode field fields).run bs).map Record.fields

/-- **A reading gives the records of its outline**, whatever it has counted. -/
theorem map_fields_run (r : Reader) (bs : List UInt8) :
    (r.run bs).map Record.fields = outline r.mode r.field r.fields bs := by
  have hforget : r.forget = (Reader.bare r.mode r.field r.fields).forget := rfl
  exact Reader.map_fields_run_congr hforget bs

/-! ### The laws of the single bytes -/

variable {mode mode' : Mode} {field field' bs : List UInt8} {fields fields' : List (List UInt8)}
variable {b : UInt8}

open Reader

theorem outline_cons :
    outline mode field fields (b :: bs) =
      (((bare mode field fields).take b).2.map Record.fields).toList ++
        (((bare mode field fields).take b).1.run bs).map Record.fields := by
  obtain ⟨hforget, hrecord⟩ := forget_step (bare mode field fields) b
  rw [outline, map_fields_run_cons, hrecord, map_fields_run_congr hforget]
  rfl

/-- A byte that ends no record is told by the reading behind it. -/
theorem outline_of_take
    (h : (bare mode field fields).take b = (bare mode' field' fields', none)) :
    outline mode field fields (b :: bs) = outline mode' field' fields' bs := by
  rw [outline_cons, h]
  rfl

theorem outline_quoted (h : b ≠ quote) :
    outline .quoted field fields (b :: bs) = outline .quoted (b :: field) fields bs :=
  outline_of_take (by simp [take, push, bare, h])

theorem outline_quoted_quote :
    outline .quoted field fields (quote :: bs) = outline .quoteSeen field fields bs :=
  outline_of_take rfl

theorem outline_quoteSeen_quote :
    outline .quoteSeen field fields (quote :: bs) = outline .quoted (quote :: field) fields bs :=
  outline_of_take rfl

/-- A quote in front of a field opens a quoted part. -/
theorem outline_open (h : mode = .between ∨ mode = .fieldStart) :
    outline mode field fields (quote :: bs) = outline .quoted field fields bs := by
  rcases h with rfl | rfl <;> exact outline_of_take rfl

/-- A byte without a meaning goes into the field. -/
theorem outline_plain (hmode : mode ≠ .quoted) (hquote : b ≠ quote) (hcomma : b ≠ comma)
    (hbreak : isBreak b = false) :
    outline mode field fields (b :: bs) = outline .plain (b :: field) fields bs :=
  outline_of_take (by cases mode <;> simp_all [take, push, bare])

theorem outline_comma (h : mode ≠ .quoted) :
    outline mode field fields (comma :: bs) =
      outline .fieldStart [] (field.reverse :: fields) bs :=
  outline_of_take (by cases mode <;> first | contradiction | rfl)

/-- A line break ends a record that has begun. -/
theorem outline_lineFeed (hquoted : mode ≠ .quoted) (hbetween : mode ≠ .between) :
    outline mode field fields (lineFeed :: bs) =
      (field.reverse :: fields).reverse :: outline .between [] [] bs := by
  have htake : (bare mode field fields).take lineFeed =
      ((bare mode field fields).next, some (bare mode field fields).record) := by
    cases mode <;> first | contradiction | rfl
  rw [outline_cons, htake, map_fields_run]
  rfl

variable {c : Char} {cs : List Char} {s : String} {cells : List String}

/-! ## Bytes of characters -/

/-- A byte that reads like a character is that character. -/
theorem eq_of_mem_encode {b : UInt8} {d : Char} (h : b ∈ String.utf8EncodeChar c)
    (hb : b.toNat < 128) (hd : b.toNat = d.toNat) : c = d :=
  Char.toNat_inj.1 ((Text.toNat_eq_of_mem_encode h hb).trans hd)

/-- Only the quote holds the byte of a quote. -/
theorem ne_quote_of_mem_encode {b : UInt8} (h : b ∈ String.utf8EncodeChar c) (hc : c ≠ '"') :
    b ≠ quote := by
  rintro rfl
  exact hc (eq_of_mem_encode h (by decide) rfl)

/-- Whether a character makes quotes necessary. -/
def isSpecial (c : Char) : Bool :=
  c == ',' || c == '"' || c == '\r' || c == '\n'

theorem needsQuotes_eq_any (s : String) : needsQuotes s = s.toList.any isSpecial :=
  rfl

/-- Nothing with a meaning stands in the other characters. -/
theorem no_meaning_of_mem_encode {b : UInt8} (h : b ∈ String.utf8EncodeChar c)
    (hc : isSpecial c = false) : b ≠ quote ∧ b ≠ comma ∧ isBreak b = false := by
  simp only [isSpecial, Bool.or_eq_false_iff, beq_eq_false_iff_ne] at hc
  obtain ⟨⟨⟨hcomma, hquote⟩, hreturn⟩, hfeed⟩ := hc
  refine ⟨ne_quote_of_mem_encode h hquote, ?_, ?_⟩
  · rintro rfl
    exact hcomma (eq_of_mem_encode h (by decide) rfl)
  · rw [isBreak, Bool.or_eq_false_iff, beq_eq_false_iff_ne, beq_eq_false_iff_ne]
    constructor
    · rintro rfl
      exact hfeed (eq_of_mem_encode h (by decide) rfl)
    · rintro rfl
      exact hreturn (eq_of_mem_encode h (by decide) rfl)

theorem flatten_charPieces :
    (charPieces c).flatten = if c = '"' then [quote, quote] else String.utf8EncodeChar c := by
  unfold charPieces
  split
  · rfl
  · exact List.flatMap_singleton' _

/-! ## Characters -/

/-- In quotes every byte but the quote goes into the field. -/
theorem outline_quoted_append {xs : List UInt8} (h : ∀ b ∈ xs, b ≠ quote) :
    outline .quoted field fields (xs ++ bs) = outline .quoted (xs.reverse ++ field) fields bs := by
  induction xs generalizing field with
  | nil => rfl
  | cons b xs ih =>
    obtain ⟨hb, hxs⟩ := List.forall_mem_cons.1 h
    rw [List.cons_append, outline_quoted hb, ih hxs]
    simp

/-- **In quotes every character goes into the field.** -/
theorem outline_quoted_chars (cs : List Char) :
    outline .quoted field fields ((cs.flatMap charPieces).flatten ++ bs) =
      outline .quoted ((Text.encode cs).reverse ++ field) fields bs := by
  induction cs generalizing field with
  | nil => rfl
  | cons c cs ih =>
    -- a quote is written twice, and the pair is read as one
    have hstep : outline .quoted field fields
        ((charPieces c).flatten ++ ((cs.flatMap charPieces).flatten ++ bs)) =
        outline .quoted ((String.utf8EncodeChar c).reverse ++ field) fields
          ((cs.flatMap charPieces).flatten ++ bs) := by
      rw [flatten_charPieces]
      split
      · rename_i hc
        subst hc
        exact outline_quoted_quote.trans outline_quoteSeen_quote
      · rename_i hc
        exact outline_quoted_append fun b hb => ne_quote_of_mem_encode hb hc
    rw [List.flatMap_cons, List.flatten_append, List.append_assoc, hstep, ih]
    simp [Text.encode]

/-- Outside of quotes a byte without a meaning goes into the field. -/
theorem outline_plain_append {xs : List UInt8} (hmode : mode ≠ .quoted) (hxs : xs ≠ [])
    (h : ∀ b ∈ xs, b ≠ quote ∧ b ≠ comma ∧ isBreak b = false) :
    outline mode field fields (xs ++ bs) = outline .plain (xs.reverse ++ field) fields bs := by
  induction xs generalizing mode field with
  | nil => contradiction
  | cons b xs ih =>
    obtain ⟨⟨hquote, hcomma, hbreak⟩, h⟩ := List.forall_mem_cons.1 h
    rw [List.cons_append, outline_plain hmode hquote hcomma hbreak]
    -- from the first byte on, the mode is the plain one
    cases xs with
    | nil => rfl
    | cons b' xs =>
      rw [ih (by decide) (by simp) h]
      simp

/-- Characters that need no quotes are written as they are. -/
theorem flatten_flatMap_charPieces (h : ∀ c ∈ cs, isSpecial c = false) :
    (cs.flatMap charPieces).flatten = Text.encode cs := by
  induction cs with
  | nil => rfl
  | cons c cs ih =>
    obtain ⟨hc, hcs⟩ := List.forall_mem_cons.1 h
    have hquote : c ≠ '"' := by
      rintro rfl
      cases hc
    rw [List.flatMap_cons, List.flatten_append, ih hcs, flatten_charPieces, if_neg hquote]
    rfl

/-! ## Fields -/

/-- Where the reading stands behind a written field. -/
def behindField (mode : Mode) (s : String) : Mode :=
  if needsQuotes s then .quoteSeen else if s = "" then mode else .plain

theorem behindField_ne_quoted (h : mode = .between ∨ mode = .fieldStart) :
    behindField mode s ≠ .quoted := by
  unfold behindField
  rcases h with rfl | rfl <;> repeat' split
  all_goals decide

/-- Only an empty field leaves the record unbegun. -/
theorem behindField_ne_between (h : mode = .between ∧ s ≠ "" ∨ mode = .fieldStart) :
    behindField mode s ≠ .between := by
  unfold behindField
  rcases h with ⟨rfl, hs⟩ | rfl
  · rw [if_neg hs]
    split <;> decide
  · repeat' split
    all_goals decide

/-- **A written field is read into the bytes of its text.** -/
theorem outline_field (h : mode = .between ∨ mode = .fieldStart) (s : String) :
    outline mode [] fields ((fieldBody s ++ fieldEnd s).flatten ++ bs) =
      outline (behindField mode s) (Text.bytes s).reverse fields bs := by
  cases hquotes : needsQuotes s with
  | true =>
    have hbytes : (fieldBody s ++ fieldEnd s).flatten ++ bs =
        quote :: ((s.toList.flatMap charPieces).flatten ++ quote :: bs) := by
      simp [fieldBody, fieldEnd, hquotes]
    rw [hbytes, outline_open h, outline_quoted_chars, outline_quoted_quote]
    simp [behindField, hquotes, Text.bytes]
  | false =>
    have hspecial : ∀ c ∈ s.toList, isSpecial c = false := by
      simpa [needsQuotes_eq_any] using hquotes
    have hbytes : (fieldBody s ++ fieldEnd s).flatten = Text.bytes s := by
      simp [fieldBody, fieldEnd, hquotes, flatten_flatMap_charPieces hspecial, Text.bytes]
    rw [hbytes]
    by_cases hs : s = ""
    · subst hs
      rfl
    · have hmode : mode ≠ .quoted := by rcases h with rfl | rfl <;> decide
      have hmeaning : ∀ b ∈ Text.bytes s, b ≠ quote ∧ b ≠ comma ∧ isBreak b = false := by
        intro b hb
        obtain ⟨c, hc, hb⟩ := List.mem_flatMap.1 hb
        exact no_meaning_of_mem_encode hb (hspecial c hc)
      rw [outline_plain_append hmode (mt Text.bytes_eq_nil_iff.1 hs) hmeaning]
      simp [behindField, hquotes, hs]

/-! ## Records -/

theorem recordBody_cons_cons (s s' : String) (cells : List String) :
    recordBody (s :: s' :: cells) =
      fieldBody s ++ fieldEnd s ++ [comma] :: recordBody (s' :: cells) :=
  rfl

theorem recordEnd_cons_cons (s s' : String) (cells : List String) :
    recordEnd (s :: s' :: cells) = recordEnd (s' :: cells) := by
  simp [recordEnd]

/-- A record that begins is read into its fields, behind those before. -/
theorem outline_record (hcells : cells ≠ [])
    (h : mode = .between ∧ cells ≠ [""] ∨ mode = .fieldStart) :
    outline mode [] fields ((recordBody cells ++ recordEnd cells).flatten ++ lineFeed :: bs) =
      (fields.reverse ++ cells.map Text.bytes) :: outline .between [] [] bs := by
  induction cells generalizing mode fields with
  | nil => contradiction
  | cons s cells ih =>
    have hmode : mode = .between ∨ mode = .fieldStart := h.imp_left And.left
    cases cells with
    | nil =>
      have hbegun : mode = .between ∧ s ≠ "" ∨ mode = .fieldStart := by simpa using h
      have hbody : recordBody [s] ++ recordEnd [s] = fieldBody s ++ fieldEnd s := rfl
      rw [hbody, outline_field hmode,
        outline_lineFeed (behindField_ne_quoted hmode) (behindField_ne_between hbegun)]
      simp
    | cons s' cells =>
      -- behind a comma the record has begun, whatever the other fields hold
      have hbytes : (recordBody (s :: s' :: cells) ++ recordEnd (s :: s' :: cells)).flatten ++
            lineFeed :: bs =
          (fieldBody s ++ fieldEnd s).flatten ++
            comma :: ((recordBody (s' :: cells) ++ recordEnd (s' :: cells)).flatten ++
              lineFeed :: bs) := by
        simp [recordBody_cons_cons, recordEnd_cons_cons]
      rw [hbytes, outline_field hmode, outline_comma (behindField_ne_quoted hmode),
        ih (by simp) (.inr rfl)]
      simp

theorem charPieces_ne_nil : charPieces c ≠ [] := by
  unfold charPieces
  split <;> simp [String.utf8EncodeChar_ne_nil]

theorem fieldBody_eq_nil_iff : fieldBody s = [] ↔ s = "" := by
  constructor
  · intro h
    have hchars := (List.append_eq_nil_iff.1 h).2
    rw [← String.toList_eq_nil_iff, List.eq_nil_iff_forall_not_mem]
    exact fun c hc => charPieces_ne_nil (List.flatMap_eq_nil_iff.1 hchars c hc)
  · rintro rfl
    rfl

/-- Of the records with fields only a single empty field has nothing to
write. -/
theorem recordBody_eq_nil_iff (h : cells ≠ []) : recordBody cells = [] ↔ cells = [""] := by
  match cells with
  | [] => contradiction
  | [s] => simp [recordBody, fieldBody_eq_nil_iff]
  | s :: s' :: cells => simp [recordBody_cons_cons]

theorem recordPieces_of_ne (h : cells ≠ []) (hcells : cells ≠ [""]) :
    recordPieces cells = recordBody cells ++ recordEnd cells ++ [[lineFeed]] := by
  have hbody : recordBody cells ≠ [] := mt (recordBody_eq_nil_iff h).1 hcells
  unfold recordPieces
  split
  · contradiction
  · rfl

/-- **A written record is read into its fields**, whatever follows. -/
theorem outline_recordPieces (h : cells ≠ []) :
    outline .between [] [] ((recordPieces cells).flatten ++ bs) =
      cells.map Text.bytes :: outline .between [] [] bs := by
  by_cases hcells : cells = [""]
  · subst hcells
    change outline .between [] [] (quote :: quote :: lineFeed :: bs) = _
    rw [outline_open (.inl rfl), outline_quoted_quote, outline_lineFeed (by decide) (by decide)]
    rfl
  · rw [recordPieces_of_ne h hcells, List.flatten_append, List.append_assoc]
    exact outline_record h (.inl ⟨rfl, hcells⟩)

/-- A record begins with the first character of its first field, or with
one that parts or surrounds fields. -/
theorem exists_recordPieces (s : String) (cells : List String) :
    ∃ c tail, (recordPieces (s :: cells)).flatten = String.utf8EncodeChar c ++ tail ∧
      (c = '"' ∨ c = ',' ∨ s.toList.head? = some c) := by
  by_cases hs : s = ""
  · -- nothing is written of an empty field, so what ends it comes first
    subst hs
    cases cells with
    | nil => exact ⟨'"', [quote, lineFeed], rfl, .inl rfl⟩
    | cons s' cells =>
      rw [recordPieces_of_ne (by simp) (by simp)]
      exact ⟨',', _, rfl, .inr (.inl rfl)⟩
  · obtain ⟨c, cs, hchars⟩ := List.exists_cons_of_ne_nil (mt String.toList_eq_nil_iff.1 hs)
    obtain ⟨behind, hbody⟩ : ∃ behind, recordBody (s :: cells) = fieldBody s ++ behind := by
      cases cells with
      | nil => exact ⟨[], (List.append_nil _).symm⟩
      | cons s' cells => exact ⟨_, (recordBody_cons_cons s s' cells).trans (List.append_assoc ..)⟩
    rw [recordPieces_of_ne (by simp) (by simp [hs]), hbody, fieldBody, hchars]
    by_cases hquotes : needsQuotes s
    · rw [if_pos hquotes]
      exact ⟨'"', _, rfl, .inl rfl⟩
    · have hc : c ≠ '"' := by
        rintro rfl
        exact hquotes (by simp [needsQuotes_eq_any, hchars, isSpecial])
      rw [if_neg hquotes]
      simp only [List.nil_append, List.flatMap_cons, List.append_assoc, List.flatten_append,
        flatten_charPieces, if_neg hc]
      exact ⟨c, _, rfl, .inr (.inr rfl)⟩

/-! ## Files -/

theorem written_cons (l : List String) (lines : List (List String)) :
    written (l :: lines) = (recordPieces l).flatten ++ written lines := by
  simp [written]

theorem outline_written {lines : List (List String)} (h : ∀ l ∈ lines, l ≠ []) :
    outline .between [] [] (written lines) = lines.map (List.map Text.bytes) := by
  induction lines with
  | nil => rfl
  | cons l lines ih =>
    obtain ⟨hl, hlines⟩ := List.forall_mem_cons.1 h
    rw [written_cons, outline_recordPieces hl, ih hlines]
    rfl

/-- A file that does not begin with a byte-order mark is read from its
first byte. -/
theorem records_of_ne {file : List UInt8} (h : ∀ rest, file ≠ 0xEF :: 0xBB :: 0xBF :: rest) :
    records file = (Reader.initial 0).run file := by
  unfold records
  split
  · exact absurd rfl (h _)
  · rfl

/-- **Written records are read back**, if their first field does not begin
with a byte-order mark. -/
theorem map_fields_records_written {lines : List (List String)} (h : ∀ l ∈ lines, l ≠ [])
    (hmark : ∀ s ∈ lines.head?.bind List.head?, s.toList.head? ≠ some '\uFEFF') :
    (records (written lines)).map Record.fields = lines.map (List.map Text.bytes) := by
  rw [records_of_ne, map_fields_run]
  · exact outline_written h
  · intro rest hrest
    have hbom : 0xEF :: 0xBB :: 0xBF :: rest = String.utf8EncodeChar '\uFEFF' ++ rest := rfl
    cases lines with
    | nil => cases hrest
    | cons l lines =>
      obtain ⟨s, cells, rfl⟩ := List.exists_cons_of_ne_nil (h l List.mem_cons_self)
      obtain ⟨c, tail, htail, hc⟩ := exists_recordPieces s cells
      rw [written_cons, htail, hbom, List.append_assoc] at hrest
      have hcmark := Text.eq_of_encode_append hrest
      subst hcmark
      rcases hc with hc | hc | hc
      · cases hc
      · cases hc
      · exact hmark s rfl hc

end Csv

end TableQuery
