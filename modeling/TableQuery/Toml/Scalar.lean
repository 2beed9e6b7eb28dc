import TableQuery.Text.Character

/-!
# TOML — numbers, truth values and dates

These values are checked and skipped: whole numbers must fit into 64
bits, dates must exist, and a positive number with a fraction must not be
too large for a double. Each takes a character at least.
-/

namespace TableQuery

namespace Toml

variable {cs rest : List Char}

/-! ## Digits -/

/-- Digits of a kind, with single underscores between them. The result
has the digits without the underscores. -/
def readDigits (isDigit : Char → Bool) (cs : List Char) : Option (List Char × List Char) :=
  match cs with
  | c :: rest => if isDigit c then some (more [c] rest) else none
  | [] => none
where
  /-- The digits behind the digits `out`, last one first. -/
  more (out : List Char) : List Char → List Char × List Char
    | '_' :: c :: cs => if isDigit c then more (c :: out) cs else (out.reverse, '_' :: c :: cs)
    | c :: cs => if isDigit c then more (c :: out) cs else (out.reverse, c :: cs)
    | [] => (out.reverse, [])

theorem readDigits_more_length (isDigit : Char → Bool) (out cs : List Char) :
    (readDigits.more isDigit out cs).2.length ≤ cs.length := by
  fun_induction readDigits.more isDigit out cs <;> grind

@[grind →] theorem readDigits_length {isDigit : Char → Bool} {ds : List Char}
    (h : readDigits isDigit cs = some (ds, rest)) : rest.length < cs.length := by
  unfold readDigits at h
  split at h
  · rename_i c l
    have := readDigits_more_length isDigit [c] l
    grind
  · cases h

/-- A decimal number without needless zeros in front. -/
def readDecimal (cs : List Char) : Option (List Char × List Char) :=
  match cs with
  | '0' :: cs => some (['0'], cs)
  | cs => readDigits Char.isDigit cs

@[grind →] theorem readDecimal_length {ds : List Char} (h : readDecimal cs = some (ds, rest)) :
    rest.length < cs.length := by
  unfold readDecimal at h
  split at h <;> grind

/-- The number of leading minus or plus signs taken, at most one, and the
text behind it. -/
def readSign : List Char → Bool × List Char
  | '-' :: cs => (true, cs)
  | '+' :: cs => (false, cs)
  | cs => (false, cs)

theorem readSign_length (cs : List Char) : (readSign cs).2.length ≤ cs.length := by
  unfold readSign
  split <;> grind

grind_pattern readSign_length => readSign cs

/-! ## Whole numbers -/

/-- The value of digits in a base. -/
def baseValue (base : Nat) (ds : List Char) : Nat :=
  ds.foldl (fun n d => base * n + (Text.hexValue? d).getD 0) 0

/-- A digit of a base up to sixteen. -/
def isBaseDigit (base : Nat) (c : Char) : Bool :=
  (Text.hexValue? c).any (· < base)

/-- The first number that does not fit into 64 bits with a sign. -/
def wholeBound : Nat :=
  Nat.pow 2 63

/-- The text behind a number in a base that is a power of two. -/
def skipBased (base : Nat) (cs : List Char) : Option (List Char) := do
  let (ds, cs) ← readDigits (isBaseDigit base) cs
  if baseValue base ds < wholeBound then some cs else none

@[grind →] theorem skipBased_length {base : Nat} (h : skipBased base cs = some rest) :
    rest.length < cs.length := by
  obtain ⟨⟨ds, l⟩, hds, h⟩ := Option.bind_eq_some_iff.mp h
  grind

/-- The text behind a whole number. -/
def skipInteger (cs : List Char) : Option (List Char) :=
  match cs with
  | '0' :: 'x' :: cs => skipBased 16 cs
  | '0' :: 'o' :: cs => skipBased 8 cs
  | '0' :: 'b' :: cs => skipBased 2 cs
  | cs => do
    let (negative, cs) := readSign cs
    let (ds, cs) ← readDecimal cs
    let n := Text.digitsValue 0 ds
    if n < wholeBound ∨ (negative ∧ n = wholeBound) then some cs else none

@[grind →] theorem skipInteger_length (h : skipInteger cs = some rest) :
    rest.length < cs.length := by
  unfold skipInteger at h
  split at h
  case h_4 =>
    obtain ⟨⟨ds, l⟩, hds, h⟩ := Option.bind_eq_some_iff.mp h
    grind
  all_goals grind

/-! ## Numbers with a fraction -/

/-- The part of a number behind its exponent sign. -/
def readExponent (cs : List Char) : Option (Int × List Char) :=
  match cs with
  | c :: cs =>
    if c = 'e' ∨ c = 'E' then do
      let (negative, cs) := readSign cs
      let (ds, cs) ← readDigits Char.isDigit cs
      let n : Int := Text.digitsValue 0 ds
      some (if negative then -n else n, cs)
    else none
  | [] => none

@[grind →] theorem readExponent_length {e : Int} (h : readExponent cs = some (e, rest)) :
    rest.length < cs.length := by
  unfold readExponent at h
  split at h
  · split at h
    · obtain ⟨⟨ds, l⟩, hds, h⟩ := Option.bind_eq_some_iff.mp h
      grind
    · cases h
  · cases h

/-- Whether the number with the digits `ds` and the exponent `e` rounds to
a double beyond the largest one. -/
def exceedsDouble (ds : List Char) (e : Int) : Bool :=
  let significant := ds.dropWhile (· == '0')
  let m := Text.digitsValue 0 significant
  let magnitude := (significant.length : Int) + e
  let bound := Nat.pow 2 1024 - Nat.pow 2 970
  if significant = [] then false
  else if magnitude > 310 then true
  else if magnitude < 300 then false
  else if 0 ≤ e then m * Nat.pow 10 e.toNat ≥ bound
  else m ≥ bound * Nat.pow 10 (-e).toNat

/-- The digits of a number with the whole part `whole`, read behind it,
and the place of the point as an exponent. A fraction or an exponent must
be there. -/
def readFraction (whole cs : List Char) : Option (List Char × Int × List Char) :=
  match cs with
  | '.' :: cs => do
    let (fraction, cs) ← readDigits Char.isDigit cs
    let shift : Int := -(fraction.length : Int)
    match readExponent cs with
    | some (e, cs) => some (whole ++ fraction, e + shift, cs)
    | none => some (whole ++ fraction, shift, cs)
  | cs => do
    let (e, cs) ← readExponent cs
    some (whole, e, cs)

@[grind →] theorem readFraction_length {whole digits : List Char} {e : Int}
    (h : readFraction whole cs = some (digits, e, rest)) : rest.length < cs.length := by
  unfold readFraction at h
  split at h
  · obtain ⟨⟨fraction, l⟩, hfraction, h⟩ := Option.bind_eq_some_iff.mp h
    grind
  · obtain ⟨⟨e, l⟩, he, h⟩ := Option.bind_eq_some_iff.mp h
    grind

/-- The text behind a number with a fraction or an exponent. -/
def skipFraction (cs : List Char) : Option (List Char) := do
  let (negative, cs) := readSign cs
  let (whole, cs) ← readDecimal cs
  let (digits, exponent, cs) ← readFraction whole cs
  if !negative && exceedsDouble digits exponent then none else some cs

@[grind →] theorem skipFraction_length (h : skipFraction cs = some rest) :
    rest.length < cs.length := by
  obtain ⟨⟨whole, l⟩, hwhole, h⟩ := Option.bind_eq_some_iff.mp h
  obtain ⟨⟨digits, e, l'⟩, hl', h⟩ := Option.bind_eq_some_iff.mp h
  grind

/-- The text behind one of the numbers that have names. -/
def skipNamed (cs : List Char) : Option (List Char) :=
  match (readSign cs).2 with
  | 'i' :: 'n' :: 'f' :: cs => some cs
  | 'n' :: 'a' :: 'n' :: cs => some cs
  | _ => none

@[grind →] theorem skipNamed_length (h : skipNamed cs = some rest) :
    rest.length < cs.length := by
  unfold skipNamed at h
  split at h <;> grind

/-! ## Dates and times -/

/-- A number of exactly so many digits. -/
def readFixed (digits : Nat) (cs : List Char) : Option (Nat × List Char) :=
  let ds := cs.take digits
  if ds.length = digits ∧ ds.all Char.isDigit then some (Text.digitsValue 0 ds, cs.drop digits)
  else none

@[grind →] theorem readFixed_length {digits n : Nat} (h : readFixed digits cs = some (n, rest)) :
    rest.length ≤ cs.length := by
  unfold readFixed at h
  grind

/-- The text behind a given character. -/
def expect (c : Char) : List Char → Option (List Char)
  | d :: cs => if d = c then some cs else none
  | [] => none

@[grind →] theorem expect_length {c : Char} (h : expect c cs = some rest) :
    rest.length < cs.length := by
  unfold expect at h
  split at h <;> grind

/-- The number of days of a month. -/
def daysIn (year month : Nat) : Nat :=
  if month = 2 then
    if year % 4 = 0 ∧ (year % 100 ≠ 0 ∨ year % 400 = 0) then 29 else 28
  else if month = 4 ∨ month = 6 ∨ month = 9 ∨ month = 11 then 30
  else 31

/-- The text behind a date. -/
def skipDate (cs : List Char) : Option (List Char) := do
  let (year, cs) ← readFixed 4 cs
  let cs ← expect '-' cs
  let (month, cs) ← readFixed 2 cs
  let cs ← expect '-' cs
  let (day, cs) ← readFixed 2 cs
  if 1 ≤ month ∧ month ≤ 12 ∧ 1 ≤ day ∧ day ≤ daysIn year month then some cs else none

@[grind →] theorem skipDate_length (h : skipDate cs = some rest) :
    rest.length < cs.length := by
  simp only [skipDate, Option.bind_eq_bind, Option.bind_eq_some_iff, Prod.exists] at h
  grind

/-- The text behind an hour and a minute. -/
def skipMinutes (cs : List Char) : Option (List Char) := do
  let (hour, cs) ← readFixed 2 cs
  let cs ← expect ':' cs
  let (minute, cs) ← readFixed 2 cs
  if hour ≤ 23 ∧ minute ≤ 59 then some cs else none

@[grind →] theorem skipMinutes_length (h : skipMinutes cs = some rest) :
    rest.length < cs.length := by
  simp only [skipMinutes, Option.bind_eq_bind, Option.bind_eq_some_iff, Prod.exists] at h
  grind

/-- The text behind a time of the day. -/
def skipTime (cs : List Char) : Option (List Char) := do
  let cs ← skipMinutes cs
  let cs ← expect ':' cs
  let (second, cs) ← readFixed 2 cs
  if second ≤ 60 then
    match cs with
    | '.' :: c :: rest => if c.isDigit then some (rest.dropWhile Char.isDigit) else some cs
    | cs => some cs
  else none

@[grind →] theorem skipTime_length (h : skipTime cs = some rest) :
    rest.length < cs.length := by
  simp only [skipTime, Option.bind_eq_bind, Option.bind_eq_some_iff, Prod.exists] at h
  obtain ⟨l₁, h₁, l₂, h₂, n, l₃, h₃, h⟩ := h
  split at h
  · split at h
    · have := (List.dropWhile_sublist (l := ‹List Char›) Char.isDigit).length_le
      grind
    · grind
  · cases h

/-- The text behind a distance from universal time, if one is here. -/
def skipOffset (cs : List Char) : Option (List Char) :=
  match cs with
  | 'Z' :: cs => some cs
  | 'z' :: cs => some cs
  | '+' :: rest => skipMinutes rest
  | '-' :: rest => skipMinutes rest
  | cs => some cs

@[grind →] theorem skipOffset_length (h : skipOffset cs = some rest) :
    rest.length ≤ cs.length := by
  unfold skipOffset at h
  split at h <;> grind

/-- The text behind a date, a time or both. -/
def skipMoment (cs : List Char) : Option (List Char) :=
  match skipDate cs with
  | some (c :: rest) =>
    if c = 'T' ∨ c = 't' ∨ c = ' ' then
      match skipTime rest with
      | some rest => skipOffset rest
      | none => some (c :: rest)
    else some (c :: rest)
  | some [] => some []
  | none => skipTime cs

@[grind →] theorem skipMoment_length (h : skipMoment cs = some rest) :
    rest.length < cs.length := by
  unfold skipMoment at h
  split at h
  · split at h
    · split at h <;> grind
    · grind
  · grind
  · grind

/-! ## All of them -/

/-- The text behind a truth value. -/
def skipTruth : List Char → Option (List Char)
  | 't' :: 'r' :: 'u' :: 'e' :: cs => some cs
  | 'f' :: 'a' :: 'l' :: 's' :: 'e' :: cs => some cs
  | _ => none

@[grind →] theorem skipTruth_length (h : skipTruth cs = some rest) :
    rest.length < cs.length := by
  unfold skipTruth at h
  split at h <;> grind

/-- The text behind a number or a truth value. -/
def skipPlain (cs : List Char) : Option (List Char) :=
  skipFraction cs <|> skipNamed cs <|> skipInteger cs <|> skipTruth cs

@[grind →] theorem skipPlain_length (h : skipPlain cs = some rest) :
    rest.length < cs.length := by
  simp only [skipPlain, Option.orElse_eq_orElse, Option.orElse_eq_or, Option.or_eq_some_iff] at h
  grind

end Toml

end TableQuery
