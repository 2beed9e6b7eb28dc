import TableQuery.Text.Character

/-!
# TOML — blanks, comments, strings and keys

Each reader takes the characters it is for from the front of a text and
returns the rest; none if the text does not start as it should. What a
reader leaves is no longer than what it was given, and shorter if it
takes a character at least; the readers that go on behind others end by
it.
-/

namespace TableQuery

namespace Toml

variable {cs rest : List Char}

/-- A blank within a line. -/
def isSpace (c : Char) : Bool :=
  c == ' ' || c == '\t'

/-- A character that comments and strings may hold: no control character
but the tab. -/
def isPlain (c : Char) : Bool :=
  c == '\t' || (0x20 ≤ c.toNat && c.toNat != 0x7F)

/-- The text behind the blanks of a line. -/
def skipSpaces (cs : List Char) : List Char :=
  cs.dropWhile isSpace

theorem skipSpaces_length (cs : List Char) : (skipSpaces cs).length ≤ cs.length :=
  (List.dropWhile_sublist _).length_le

grind_pattern skipSpaces_length => skipSpaces cs

/-- The text behind a line break. -/
def readBreak : List Char → Option (List Char)
  | '\n' :: cs => some cs
  | '\r' :: '\n' :: cs => some cs
  | _ => none

@[grind →] theorem readBreak_length (h : readBreak cs = some rest) : rest.length < cs.length := by
  unfold readBreak at h
  split at h <;> cases h <;> grind

/-- The text behind a comment, if one starts here. -/
def skipComment (cs : List Char) : List Char :=
  match cs with
  | '#' :: rest => rest.dropWhile isPlain
  | _ => cs

theorem skipComment_length (cs : List Char) : (skipComment cs).length ≤ cs.length := by
  unfold skipComment
  split
  · exact ((List.dropWhile_sublist _).trans (List.sublist_cons_self _ _)).length_le
  · exact Nat.le_refl _

grind_pattern skipComment_length => skipComment cs

/-- The text behind what may follow a key or header on its line, and
behind the end of the line. -/
def readLineEnd (cs : List Char) : Option (List Char) :=
  match skipComment (skipSpaces cs) with
  | [] => some []
  | cs => readBreak cs

theorem readLineEnd_length_lt (h : readLineEnd cs = some rest) (hcs : cs ≠ []) :
    rest.length < cs.length := by
  unfold readLineEnd at h
  split at h <;> grind [List.length_pos_iff]

@[grind →] theorem readLineEnd_length (h : readLineEnd cs = some rest) :
    rest.length ≤ cs.length := by
  unfold readLineEnd at h
  split at h <;> grind

/-- The text behind blanks, line breaks and comments. -/
def skipLines (inComment : Bool) : List Char → List Char
  | [] => []
  | '\n' :: cs => skipLines false cs
  | '\r' :: '\n' :: cs => skipLines false cs
  | c :: cs =>
    if inComment then if isPlain c then skipLines true cs else c :: cs
    else if isSpace c then skipLines false cs
    else if c = '#' then skipLines true cs
    else c :: cs

theorem skipLines_length (inComment : Bool) (cs : List Char) :
    (skipLines inComment cs).length ≤ cs.length := by
  fun_induction skipLines inComment cs <;> grind

grind_pattern skipLines_length => skipLines inComment cs

/-! ## Strings -/

/-- The character with a code point of `digits` hexadecimal digits. -/
def readCodePoint (digits value : Nat) (cs : List Char) : Option (Char × List Char) :=
  match digits, cs with
  | 0, cs => if value.isValidChar then some (Char.ofNat value, cs) else none
  | n + 1, c :: cs => do
    let d ← Text.hexValue? c
    readCodePoint n (16 * value + d) cs
  | _ + 1, [] => none

@[grind →] theorem readCodePoint_length {digits value : Nat} {c : Char}
    (h : readCodePoint digits value cs = some (c, rest)) : rest.length ≤ cs.length := by
  fun_induction readCodePoint digits value cs with
  | case1 => grind
  | case2 => grind
  | case3 n value c cs ih =>
    obtain ⟨d, -, h⟩ := Option.bind_eq_some_iff.mp h
    have := ih d h
    grind
  | case4 => grind

/-- The character that an escape stands for, behind the backslash. -/
def readEscape : List Char → Option (Char × List Char)
  | 'b' :: cs => some ('\x08', cs)
  | 't' :: cs => some ('\t', cs)
  | 'n' :: cs => some ('\n', cs)
  | 'f' :: cs => some ('\x0c', cs)
  | 'r' :: cs => some ('\r', cs)
  | '"' :: cs => some ('"', cs)
  | '\\' :: cs => some ('\\', cs)
  | 'u' :: cs => readCodePoint 4 0 cs
  | 'U' :: cs => readCodePoint 8 0 cs
  | _ => none

@[grind →] theorem readEscape_length {c : Char} (h : readEscape cs = some (c, rest)) :
    rest.length < cs.length := by
  unfold readEscape at h
  split at h
  case h_8 | h_9 => exact Nat.lt_succ_of_le (readCodePoint_length h)
  all_goals grind

/-- The rest of a string in double quotes, behind the characters `out`,
last one first. -/
def readBasic (out cs : List Char) : Option (List Char × List Char) :=
  match cs with
  | [] => none
  | '"' :: cs => some (out.reverse, cs)
  | '\\' :: cs =>
    match _h : readEscape cs with
    | none => none
    | some (c, cs) => readBasic (c :: out) cs
  | c :: cs => if isPlain c then readBasic (c :: out) cs else none
termination_by cs.length
decreasing_by
  · have := readEscape_length _h
    simp only [List.length_cons]
    omega
  · simp

@[grind →] theorem readBasic_length {out s : List Char} (h : readBasic out cs = some (s, rest)) :
    rest.length < cs.length := by
  fun_induction readBasic out cs <;> grind

/-- The rest of a string in single quotes. -/
def readLiteral (out : List Char) : List Char → Option (List Char × List Char)
  | [] => none
  | c :: cs =>
    if c = '\'' then some (out.reverse, cs)
    else if isPlain c then readLiteral (c :: out) cs
    else none

@[grind →] theorem readLiteral_length {out s : List Char}
    (h : readLiteral out cs = some (s, rest)) : rest.length < cs.length := by
  fun_induction readLiteral out cs <;> grind

/-- The end of a string in triple quotes, if three or more of them are
here. Up to two more belong to the string. -/
def readTriple (q : Char) (out cs : List Char) : Option (List Char × List Char) :=
  let run := (cs.takeWhile (· == q)).length
  if run < 3 then none
  else
    let more := min (run - 3) 2
    some (out.reverse ++ List.replicate more q, cs.drop (3 + more))

@[grind →] theorem readTriple_length {q : Char} {out s : List Char}
    (h : readTriple q out cs = some (s, rest)) : rest.length < cs.length := by
  have := (List.takeWhile_sublist (l := cs) (· == q)).length_le
  unfold readTriple at h
  grind

/-- The text behind a backslash at the end of a line and all blanks and
line breaks after it. -/
def readJoint (cs : List Char) : Option (List Char) := do
  let rest ← readBreak (skipSpaces cs)
  some (skipBreaks rest)
where
  /-- The text behind blanks and line breaks. -/
  skipBreaks : List Char → List Char
    | '\n' :: cs => skipBreaks cs
    | '\r' :: '\n' :: cs => skipBreaks cs
    | c :: cs => if isSpace c then skipBreaks cs else c :: cs
    | [] => []

@[grind →] theorem readJoint_length (h : readJoint cs = some rest) : rest.length < cs.length := by
  have hs := skipSpaces_length cs
  have skipBreaks_length (l : List Char) : (readJoint.skipBreaks l).length ≤ l.length := by
    fun_induction readJoint.skipBreaks l <;> grind
  obtain ⟨l, hl, hrest⟩ := Option.bind_eq_some_iff.mp h
  cases hrest
  have := readBreak_length hl
  have := skipBreaks_length l
  omega

/-- The rest of a string in three double quotes. -/
def readBasicLines (out cs : List Char) : Option (List Char × List Char) :=
  match readTriple '"' out cs with
  | some r => some r
  | none =>
    match cs with
    | [] => none
    | '\\' :: cs =>
      match _h : readJoint cs with
      | some cs => readBasicLines out cs
      | none =>
        match _h : readEscape cs with
        | none => none
        | some (c, cs) => readBasicLines (c :: out) cs
    | c :: cs =>
      match _h : readBreak (c :: cs) with
      | some cs => readBasicLines ('\n' :: out) cs
      | none => if isPlain c then readBasicLines (c :: out) cs else none
termination_by cs.length
decreasing_by
  · exact Nat.lt_succ_of_lt (readJoint_length _h)
  · exact Nat.lt_succ_of_lt (readEscape_length _h)
  · exact readBreak_length _h
  · simp

@[grind →] theorem readBasicLines_length {out s : List Char}
    (h : readBasicLines out cs = some (s, rest)) : rest.length < cs.length := by
  fun_induction readBasicLines out cs <;> grind

/-- The rest of a string in three single quotes. -/
def readLiteralLines (out cs : List Char) : Option (List Char × List Char) :=
  match readTriple '\'' out cs with
  | some r => some r
  | none =>
    match cs with
    | [] => none
    | c :: cs =>
      match _h : readBreak (c :: cs) with
      | some cs => readLiteralLines ('\n' :: out) cs
      | none => if isPlain c then readLiteralLines (c :: out) cs else none
termination_by cs.length
decreasing_by
  · exact readBreak_length _h
  · simp

@[grind →] theorem readLiteralLines_length {out s : List Char}
    (h : readLiteralLines out cs = some (s, rest)) : rest.length < cs.length := by
  fun_induction readLiteralLines out cs <;> grind

/-- The text behind one line break, if there is one. -/
def skipBreak (cs : List Char) : List Char :=
  (readBreak cs).getD cs

theorem skipBreak_length (cs : List Char) : (skipBreak cs).length ≤ cs.length := by
  unfold skipBreak
  cases h : readBreak cs <;> grind

grind_pattern skipBreak_length => skipBreak cs

/-- A string of any of the four kinds. -/
def readString (cs : List Char) : Option (List Char × List Char) :=
  match cs with
  | '"' :: '"' :: '"' :: rest => readBasicLines [] (skipBreak rest)
  | '\'' :: '\'' :: '\'' :: rest => readLiteralLines [] (skipBreak rest)
  | '"' :: rest => readBasic [] rest
  | '\'' :: rest => readLiteral [] rest
  | _ => none

@[grind →] theorem readString_length {s : List Char} (h : readString cs = some (s, rest)) :
    rest.length < cs.length := by
  unfold readString at h
  split at h <;> grind

/-! ## Keys -/

/-- A character of a key without quotes. -/
def isKeyChar (c : Char) : Bool :=
  c.isAlphanum || c == '-' || c == '_'

/-- One part of a key: a word, or a string on one line. -/
def readKeyPart (cs : List Char) : Option (String × List Char) :=
  match cs with
  | '"' :: rest => (readBasic [] rest).map fun (s, cs) => (String.ofList s, cs)
  | '\'' :: rest => (readLiteral [] rest).map fun (s, cs) => (String.ofList s, cs)
  | cs =>
    match cs.takeWhile isKeyChar with
    | [] => none
    | word => some (String.ofList word, cs.dropWhile isKeyChar)

@[grind →] theorem readKeyPart_length {part : String} (h : readKeyPart cs = some (part, rest)) :
    rest.length < cs.length := by
  have hcut := congrArg List.length (List.takeWhile_append_dropWhile (p := isKeyChar) (l := cs))
  unfold readKeyPart at h
  split at h
  · obtain ⟨⟨s, l⟩, hs, hp⟩ := Option.map_eq_some_iff.mp h
    grind
  · obtain ⟨⟨s, l⟩, hs, hp⟩ := Option.map_eq_some_iff.mp h
    grind
  · split at h <;> grind [List.length_pos_iff]

/-- The most parts a key may have is one less. -/
def maxDepth : Nat :=
  80

/-- A key of at most `most` parts, one at least, with dots between
them. -/
def readKeyParts (most : Nat) (cs : List Char) : Option (List String × List Char) :=
  match most with
  | 0 => none
  | n + 1 => do
    let (part, cs) ← readKeyPart (skipSpaces cs)
    match skipSpaces cs with
    | '.' :: cs =>
      let (parts, cs) ← readKeyParts n cs
      some (part :: parts, cs)
    | cs => some ([part], cs)

@[grind →] theorem readKeyParts_length {most : Nat} {parts : List String}
    (h : readKeyParts most cs = some (parts, rest)) : rest.length < cs.length := by
  fun_induction readKeyParts most cs generalizing parts with
  | case1 => cases h
  | case2 n cs ih =>
    obtain ⟨⟨part, l⟩, hpart, h⟩ := Option.bind_eq_some_iff.mp h
    dsimp only at h
    split at h
    · obtain ⟨⟨ps, l'⟩, hps, h⟩ := Option.bind_eq_some_iff.mp h
      grind
    · grind

/-- A key: the path to its table and its last part. -/
def readKey (cs : List Char) : Option ((List String × String) × List Char) := do
  let (parts, cs) ← readKeyParts (maxDepth - 1) cs
  let last ← parts.getLast?
  some ((parts.dropLast, last), cs)

@[grind →] theorem readKey_length {key : List String × String}
    (h : readKey cs = some (key, rest)) : rest.length < cs.length := by
  obtain ⟨⟨parts, l⟩, hparts, h⟩ := Option.bind_eq_some_iff.mp h
  obtain ⟨last, -, h⟩ := Option.bind_eq_some_iff.mp h
  grind

end Toml

end TableQuery
