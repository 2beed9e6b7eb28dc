import Mathlib.Data.List.TakeWhile
import TableQuery.Proofs.Outcome
import TableQuery.Settings.Environment

/-!
# Environments — what an environment file makes of them

A file adds its assignments to the environment one by one, and what is set
already stays.
-/

namespace TableQuery

namespace Environment

/-! ## Setting a variable

A variable that is set stays as it is, so of several assignments to a name
the first counts, and only where the environment has no variable of that
name (`get?_setAll`). An empty variable is set like any other.

`blurred` is a view of an environment in which one variable may as well be
missing as empty. Setting other variables goes on under this view
(`blurred_setNew`). -/

variable {e e' : Environment} {name other value : String} {front back : List (String × String)}

/-- Whether a variable can have the name: it is not empty and does not
reach into a value. -/
def IsName (name : String) : Prop :=
  name ≠ "" ∧ '=' ∉ name.toList

/-! ### One variable -/

theorem get?_append (front back : List (String × String)) (name : String) :
    get? ⟨front ++ back⟩ name = (get? ⟨front⟩ name).or (get? ⟨back⟩ name) := by
  unfold get?
  split
  · rfl
  · rw [List.findSome?_append]

theorem get?_singleton (hname : IsName name) (hother : '=' ∉ other.toList) :
    get? ⟨[(name, value)]⟩ other = if other = name then some value else none := by
  split
  · rename_i heq
    subst heq
    simp [get?, hname.1, valueIn?_entry]
  · rename_i hne
    unfold get?
    split
    · rfl
    · simp [valueIn?_entry_of_ne value.toList hother hname.2 (mt String.toList_inj.1 hne)]

/-- An empty variable is found under its own name only. A longer name would
have to end in its value. -/
theorem get?_singleton_empty (hname : IsName name) (other : String) :
    get? ⟨[(name, "")]⟩ other = if other = name then some "" else none := by
  by_cases hother : '=' ∈ other.toList
  · have hne : other ≠ name := fun heq => hname.2 (heq ▸ hother)
    have hprefix : ¬ other.toList ++ ['='] <+: name.toList ++ ['='] := by
      intro h
      have hcount := h.sublist.count_le '='
      rw [List.count_append, List.count_append, List.count_eq_zero_of_not_mem hname.2] at hcount
      have hpos := List.count_pos_iff.2 hother
      omega
    rw [if_neg hne, get?]
    split
    · rfl
    · simp [valueIn?, entry, hprefix]
  · exact get?_singleton hname hother

theorem get?_setNew (e : Environment) (name value other : String) :
    (e.setNew name value).get? other =
      (e.get? other).or (if e.get? name = none then get? ⟨[(name, value)]⟩ other else none) := by
  unfold setNew
  split
  · rename_i hset
    simp [hset]
  · rename_i hset
    rw [get?_append, if_pos hset]

/-! ### Several assignments -/

/-- Makes assignments in their order, none of which changes a variable that
is set. -/
def setAll (e : Environment) (as : List (String × String)) : Environment :=
  as.foldl (fun e a => e.setNew a.1 a.2) e

/-- **The first assignment counts**, and only where the variable was not
set before. -/
theorem get?_setAll {as : List (String × String)} (has : ∀ a ∈ as, IsName a.1)
    (hname : '=' ∉ name.toList) : (e.setAll as).get? name = (e.get? name).or (as.lookup name) := by
  induction as generalizing e with
  | nil => simp [setAll]
  | cons a as ih =>
    obtain ⟨ha, has⟩ := List.forall_mem_cons.1 has
    have hrest : (e.setAll (a :: as)).get? name = ((e.setNew a.1 a.2).setAll as).get? name := rfl
    rw [hrest, ih has, get?_setNew, get?_singleton ha hname, List.lookup_cons]
    by_cases heq : name = a.1
    · rw [heq]
      cases e.get? a.1 <;> simp
    · have hbeq : (name == a.1) = false := beq_eq_false_iff_ne.2 heq
      simp [heq, hbeq]

/-! ### Missing and empty -/

/-- What there is to see of an environment if it is not told apart whether
one variable is missing or empty. -/
def blurred (name : String) (e : Environment) (n : String) : Option String :=
  if n = name then some ((e.get? n).getD "") else e.get? n

theorem get?_of_blurred_eq (h : e.blurred name = e'.blurred name) (hne : other ≠ name) :
    e.get? other = e'.get? other := by
  simpa [blurred, hne] using congrFun h other

theorem getD_of_blurred_eq (h : e.blurred name = e'.blurred name) (other : String) :
    (e.get? other).getD "" = (e'.get? other).getD "" := by
  by_cases heq : other = name
  · simpa [blurred, heq] using congrFun h other
  · rw [get?_of_blurred_eq h heq]

/-- Setting another variable does not look at the one that is blurred. -/
theorem blurred_setNew (h : e.blurred name = e'.blurred name) (hname : '=' ∉ name.toList)
    (hother : IsName other) (hne : other ≠ name) :
    (e.setNew other value).blurred name = (e'.setNew other value).blurred name := by
  funext n
  by_cases hn : n = name
  · subst hn
    simpa [blurred, get?_setNew, get?_singleton hother hname, Ne.symm hne] using
      getD_of_blurred_eq h n
  · simp only [blurred, if_neg hn, get?_setNew, get?_of_blurred_eq h hn, get?_of_blurred_eq h hne]

/-- An empty variable may as well be missing. -/
theorem blurred_insert_empty (hname : IsName name) (hunset : get? ⟨front ++ back⟩ name = none) :
    blurred name ⟨front ++ (name, "") :: back⟩ = blurred name ⟨front ++ back⟩ := by
  have hsplit (n : String) : get? ⟨front ++ (name, "") :: back⟩ n =
      (get? ⟨front⟩ n).or ((if n = name then some "" else none).or (get? ⟨back⟩ n)) := by
    rw [get?_append, ← List.singleton_append, get?_append, get?_singleton_empty hname]
  funext n
  by_cases hn : n = name
  · subst hn
    rw [get?_append, Option.or_eq_none_iff] at hunset
    simp [blurred, hsplit, get?_append, hunset]
  · simp [blurred, hsplit, get?_append, hn]

end Environment

namespace EnvFile

/-! ## Environment files

A file that can be carried out is a list of assignments, made in their
order (`exists_assigns`). Reading one of them asks for the values of other
variables, where a missing variable counts as an empty one, and making it
asks whether its own variable is set. So for a file that assigns nothing to
a variable it does not matter whether that variable is missing or empty
(`map_blurred_applyFile`). -/

open Environment

variable {env env' : Environment} {line cs name rest value : List Char}
variable {l : Option (List Char)} {ls : List (Option (List Char))}

/-- A line without the blanks around it. -/
def trimmed (line : List Char) : List Char :=
  Text.dropBlanks (Text.dropTrailingBlanks line)

/-- The assignments that lines make one after the other. The value of each
is read with the variables that are set by then. -/
inductive Assigns : Environment → List (Option (List Char)) → List (String × String) → Prop
  | done {env : Environment} : Assigns env [] []
  /-- A line of blanks, or a comment. -/
  | skip {env : Environment} {line : List Char} {ls : List (Option (List Char))}
      {as : List (String × String)} :
      trimmed line = [] ∨ (trimmed line).head? = some '#' → Assigns env ls as →
      Assigns env (some line :: ls) as
  /-- An assignment, which the lines behind it see. -/
  | assign {env : Environment} {line name value : List Char} {ls : List (Option (List Char))}
      {as : List (String × String)} :
      readAssignment? env (trimmed line) = some (name, value) →
      Assigns (env.setNew (String.ofList name) (String.ofList value)) ls as →
      Assigns env (some line :: ls) ((String.ofList name, String.ofList value) :: as)

/-- Whether a line assigns to the variable. This does not hang on the
variables that are set. -/
def Targets (name : String) (line : List Char) : Prop :=
  ∃ rest, readTarget (trimmed line) = some (name.toList, rest)

/-! ### Names -/

theorem isNameChar_of_isNameStart {c : Char} (h : isNameStart c = true) : isNameChar c = true := by
  simp only [isNameStart, Bool.or_eq_true] at h
  rcases h with h | h
  · simp [isNameChar, Char.isAlphanum, h]
  · simp [isNameChar, h]

theorem isName_of_readName (h : readName cs = some (name, rest)) : IsName (String.ofList name) := by
  unfold readName at h
  split at h
  · cases h
  rename_i c cs
  rw [Option.ite_none_right_eq_some] at h
  obtain ⟨hstart, h⟩ := h
  cases h
  refine ⟨?_, fun hequals => ?_⟩
  · simp [isNameChar_of_isNameStart hstart, ← String.toList_inj]
  · rw [String.toList_ofList] at hequals
    exact absurd (List.mem_takeWhile_imp hequals) (by decide)

theorem isName_of_readTarget (h : readTarget cs = some (name, rest)) :
    IsName (String.ofList name) := by
  obtain ⟨⟨first, behind⟩, hfirst, h⟩ := Option.bind_eq_some_iff.1 h
  simp only at h
  split at h
  · cases h
    exact isName_of_readName hfirst
  -- the name stands behind the word `export`
  split at h
  · obtain ⟨⟨second, behind⟩, hsecond, h⟩ := Option.bind_eq_some_iff.1 h
    obtain ⟨_, -, h⟩ := Option.bind_eq_some_iff.1 h
    cases h
    exact isName_of_readName hsecond
  · cases h

theorem exists_readTarget (h : readAssignment? env line = some (name, value)) :
    ∃ rest, readTarget line = some (name, rest) := by
  obtain ⟨⟨target, rest⟩, htarget, h⟩ := Option.bind_eq_some_iff.1 h
  refine ⟨rest, htarget.trans ?_⟩
  -- a comment behind the equals sign is the empty value
  simp only at h
  split at h
  · cases h
    rfl
  · obtain ⟨_, -, h⟩ := Option.bind_eq_some_iff.1 h
    cases h
    rfl

/-! ### Assignments -/

theorem Assigns.isName {as : List (String × String)} (h : Assigns env ls as) :
    ∀ a ∈ as, IsName a.1 := by
  induction h with
  | done => simp
  | skip _ _ ih => exact ih
  | assign hread _ ih =>
    obtain ⟨rest, htarget⟩ := exists_readTarget hread
    exact List.forall_mem_cons.2 ⟨isName_of_readTarget htarget, ih⟩

theorem applyLine_eq_ok (h : applyLine env line = .ok env') :
    (trimmed line = [] ∨ (trimmed line).head? = some '#') ∧ env' = env ∨
      ∃ name value, readAssignment? env (trimmed line) = some (name, value) ∧
        env' = env.setNew (String.ofList name) (String.ofList value) := by
  unfold applyLine at h
  simp only at h
  split at h
  · rename_i hvoid
    cases h
    exact .inl ⟨hvoid, rfl⟩
  · split at h
    · cases h
    · rename_i name value hread
      unfold assign at h
      simp only at h
      split at h
      · cases h
      · cases h
        exact .inr ⟨name, value, hread, rfl⟩

/-- **Carrying out lines is making their assignments.** -/
theorem exists_assigns (h : ls.foldlM applyNext env = .ok env') :
    ∃ as, Assigns env ls as ∧ env' = env.setAll as := by
  induction ls generalizing env with
  | nil =>
    cases h
    exact ⟨[], .done, rfl⟩
  | cons l ls ih =>
    rw [List.foldlM_cons] at h
    obtain ⟨env₁, hline, h⟩ := bind_eq_ok_iff.1 h
    obtain ⟨as, has, rfl⟩ := ih h
    cases l with
    | none => cases hline
    | some line =>
      rcases applyLine_eq_ok hline with ⟨hvoid, rfl⟩ | ⟨name, value, hread, rfl⟩
      · exact ⟨as, .skip hvoid has, rfl⟩
      · exact ⟨_, .assign hread has, rfl⟩

/-! ### Missing and empty -/

/-- The characters of a value hang on the values of the variables that it
names. -/
theorem readValue_congr (h : valueOf env = valueOf env') (mode : ValueMode)
    (out cs : List Char) : readValue env mode out cs = readValue env' mode out cs := by
  induction cs generalizing mode out with
  | nil => cases mode <;> simp only [readValue, h]
  | cons c cs ih => cases mode <;> simp only [readValue, h, ih]

theorem readAssignment?_congr (h : valueOf env = valueOf env') (line : List Char) :
    readAssignment? env line = readAssignment? env' line := by
  simp only [readAssignment?, readValue_congr h]

section Blurred

variable {v : String} (hv : '=' ∉ v.toList)
include hv

theorem map_blurred_assign (h : env.blurred v = env'.blurred v)
    (hname : IsName (String.ofList name)) (hne : String.ofList name ≠ v) (value : List Char) :
    (assign env name value).map (blurred v) = (assign env' name value).map (blurred v) := by
  simp only [assign, get?_of_blurred_eq h hne]
  split
  · rfl
  · exact congrArg Except.ok (blurred_setNew h hv hname hne)

/-- One line: it reads the values of variables, and asks of no variable but
its own whether it is set. -/
theorem map_blurred_applyNext (h : env.blurred v = env'.blurred v)
    (hl : ∀ line ∈ l, ¬ Targets v line) :
    (applyNext env l).map (blurred v) = (applyNext env' l).map (blurred v) := by
  cases l with
  | none => rfl
  | some line =>
    have hvalues : valueOf env = valueOf env' := by
      funext name
      rw [valueOf, valueOf, getD_of_blurred_eq h]
    simp only [applyNext, applyLine, readAssignment?_congr hvalues]
    split
    · exact congrArg Except.ok h
    · split
      · rfl
      · rename_i name value hread
        obtain ⟨rest, htarget⟩ := exists_readTarget hread
        refine map_blurred_assign hv h (isName_of_readTarget htarget) (fun heq => ?_) value
        exact hl line rfl ⟨rest, by rwa [← heq, String.toList_ofList]⟩

/-- **All lines of a file that does not assign to the variable.** -/
theorem map_blurred_applyFile {file : List UInt8} (h : env.blurred v = env'.blurred v)
    (hfile : ∀ line, some line ∈ lines file → ¬ Targets v line) :
    (env.applyFile file).map (blurred v) = (env'.applyFile file).map (blurred v) := by
  unfold Environment.applyFile
  generalize lines file = ls at hfile
  induction ls generalizing env env' with
  | nil => exact congrArg Except.ok h
  | cons l ls ih =>
    rw [List.foldlM_cons, List.foldlM_cons]
    refine map_bind_congr (map_blurred_applyNext hv h ?_) fun _ _ h' => ih h' ?_
    · rintro line rfl
      exact hfile line List.mem_cons_self
    · exact fun line hline => hfile line (List.mem_cons_of_mem l hline)

end Blurred

end EnvFile

end TableQuery
