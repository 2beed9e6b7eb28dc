import Mathlib.Data.List.Infix
import TableQuery.Storage.Tree

/-!
# Paths — put together, and followed

A slash parts the names of a path, so the names of a joined path are those
of the base and those of what was joined to it (`components_join`). Followed
name by name, a path never leaves the place where it starts exactly if no
beginning of it has more steps up than down, or if that place is the root
(`stays_iff`).
-/

namespace TableQuery

namespace Path

variable {base name : String} {place names front : List String}
variable {c : Char} {cs part : List Char} {rest : List (List Char)}

/-! ## Parts -/

theorem exists_splitChars (cs : List Char) : ∃ part parts, splitChars cs = part :: parts := by
  cases cs with
  | nil => exact ⟨[], [], rfl⟩
  | cons c cs =>
    rw [splitChars]
    split
    · exact ⟨_, _, rfl⟩
    · split <;> exact ⟨_, _, rfl⟩

theorem splitChars_slash (cs : List Char) : splitChars ('/' :: cs) = [] :: splitChars cs := by
  rw [splitChars, if_pos rfl]

/-- Any other character is put in front of the first part. -/
theorem splitChars_cons (hslash : c ≠ '/') (hparts : splitChars cs = part :: rest) :
    splitChars (c :: cs) = (c :: part) :: rest := by
  rw [splitChars, if_neg hslash, hparts]

/-- A slash parts what stands in front of it from what stands behind. -/
theorem splitChars_append_slash (cs tail : List Char) :
    splitChars (cs ++ '/' :: tail) = splitChars cs ++ splitChars tail := by
  induction cs with
  | nil => exact splitChars_slash tail
  | cons c cs ih =>
    by_cases hslash : c = '/'
    · rw [hslash, List.cons_append, splitChars_slash, splitChars_slash, ih, List.cons_append]
    · obtain ⟨part, rest, hparts⟩ := exists_splitChars cs
      rw [hparts] at ih
      rw [List.cons_append, splitChars_cons hslash ih, splitChars_cons hslash hparts]
      rfl

theorem splitChars_of_notMem (h : '/' ∉ cs) : splitChars cs = [cs] := by
  induction cs with
  | nil => rfl
  | cons c cs ih =>
    obtain ⟨hslash, hrest⟩ : '/' ≠ c ∧ '/' ∉ cs := by simpa only [List.mem_cons, not_or] using h
    exact splitChars_cons hslash.symm (ih hrest)

/-- **What has no slash gets into the last part** of what it is put
behind. -/
theorem exists_splitChars_append (cs : List Char) :
    ∃ front last, ∀ tail, '/' ∉ tail → splitChars (cs ++ tail) = front ++ [last ++ tail] := by
  induction cs with
  | nil => exact ⟨[], [], fun tail htail => splitChars_of_notMem htail⟩
  | cons c cs ih =>
    obtain ⟨front, last, hbehind⟩ := ih
    by_cases hslash : c = '/'
    · refine ⟨[] :: front, last, fun tail htail => ?_⟩
      rw [hslash, List.cons_append, splitChars_slash, hbehind tail htail, List.cons_append]
    · cases front with
      | nil => exact ⟨[], c :: last, fun tail htail => splitChars_cons hslash (hbehind tail htail)⟩
      | cons part front =>
        exact ⟨(c :: part) :: front, last, fun tail htail =>
          splitChars_cons hslash (hbehind tail htail)⟩

/-! ## Names -/

theorem components_append_slash (base name : String) :
    components (base ++ "/" ++ name) = components base ++ components name := by
  have hparts : parts (base ++ "/" ++ name) = parts base ++ parts name := by
    have hchars : (base ++ "/" ++ name).toList = base.toList ++ '/' :: name.toList := by simp
    rw [parts, hchars, splitChars_append_slash, List.map_append]
    rfl
  rw [components, hparts, List.filter_append]
  rfl

theorem join_empty (name : String) : join "" name = name := by
  rw [join]
  split
  · rfl
  · exact String.empty_append

/-- A base that is not empty is parted from the name by one slash, its own
or the one that is put there. -/
theorem exists_join_eq (h : ¬ isAbsolute name) (hbase : base ≠ "") :
    ∃ front, join base name = front ++ "/" ++ name ∧ (base = front ∨ base = front ++ "/") := by
  rw [join, if_neg h]
  split
  · rename_i hends
    have hne : base.toList ≠ [] := mt String.toList_eq_nil_iff.1 hbase
    have hlast : base.toList.getLast hne = '/' := by
      simpa [List.getLast?_eq_some_getLast hne] using hends
    have hslash : base = String.ofList base.toList.dropLast ++ "/" := by
      rw [← String.toList_inj, String.toList_append, String.toList_ofList]
      exact (hlast ▸ List.dropLast_append_getLast hne).symm
    exact ⟨_, congrArg (· ++ name) hslash, .inr hslash⟩
  · exact ⟨base, rfl, .inl rfl⟩

/-- **The names of a joined path** are those of the base and those behind
it, whether or not a slash was put between the two. -/
theorem components_join (h : ¬ isAbsolute name) :
    components (join base name) = components base ++ components name := by
  by_cases hbase : base = ""
  · rw [hbase, join_empty]
    rfl
  · obtain ⟨front, hjoin, rfl | rfl⟩ := exists_join_eq h hbase
    · rw [hjoin, components_append_slash]
    · -- behind the slash of the base there is no name
      have hends : components (front ++ "/") = components front := by
        rw [← String.append_empty (s := front ++ "/"), components_append_slash]
        exact List.append_nil _
      rw [hjoin, hends, components_append_slash]

theorem isAbsolute_append (h : base ≠ "") (tail : String) :
    isAbsolute (base ++ tail) = isAbsolute base := by
  obtain ⟨c, rest, hchars⟩ := List.exists_cons_of_ne_nil (mt String.toList_eq_nil_iff.1 h)
  rw [isAbsolute, isAbsolute, String.toList_append, hchars]
  rfl

/-- A joined path starts where its base does. -/
theorem isAbsolute_join (h : ¬ isAbsolute name) :
    isAbsolute (join base name) = isAbsolute base := by
  by_cases hbase : base = ""
  · rw [hbase, join_empty]
    exact Bool.eq_false_iff.2 h
  · rw [join, if_neg h]
    split
    · exact isAbsolute_append hbase name
    · rw [String.append_assoc]
      exact isAbsolute_append hbase ("/" ++ name)

/-- **Different names are joined to different paths.** -/
theorem join_injective {other : String} (h : ¬ isAbsolute name) (hother : ¬ isAbsolute other)
    (hjoin : join base name = join base other) : name = other := by
  rw [join, if_neg h, join, if_neg hother] at hjoin
  split at hjoin
  · exact (String.append_right_inj _).1 hjoin
  · exact (String.append_right_inj _).1 hjoin

/-! ## Walks -/

theorem walk_append (place front names : List String) :
    walk place (front ++ names) = walk (walk place front) names :=
  List.foldl_append

theorem walk_concat (place front : List String) (name : String) :
    walk place (front ++ [name]) = step (walk place front) name := by
  rw [walk_append]
  rfl

theorem balanced_concat_iff : Balanced (front ++ [name]) ↔
    Balanced front ∧ (front ++ [name]).count ".." ≤ (front ++ [name]).countP (· != "..") := by
  simp only [Balanced, List.prefix_concat_iff, forall_eq_or_imp, and_comm]

theorem stays_concat_iff : Stays place (front ++ [name]) ↔
    Stays place front ∧ place <+: walk place (front ++ [name]) := by
  simp only [Stays, List.prefix_concat_iff, forall_eq_or_imp, and_comm]

theorem count_concat_up (front : List String) :
    (front ++ [".."]).count ".." = front.count ".." + 1 ∧
      (front ++ [".."]).countP (· != "..") = front.countP (· != "..") := by
  simp

theorem count_concat_of_ne (front : List String) (h : name ≠ "..") :
    (front ++ [name]).count ".." = front.count ".." ∧
      (front ++ [name]).countP (· != "..") = front.countP (· != "..") + 1 := by
  simp [h]

/-- A last step up must take back a step down. -/
theorem balanced_concat_up_iff : Balanced (front ++ [".."]) ↔
    Balanced front ∧ front.count ".." < front.countP (· != "..") := by
  obtain ⟨hup, hdown⟩ := count_concat_up front
  rw [balanced_concat_iff, hup, hdown, Nat.succ_le_iff]

/-- A last step down does not matter. -/
theorem balanced_concat_iff_of_ne (h : name ≠ "..") :
    Balanced (front ++ [name]) ↔ Balanced front := by
  rw [balanced_concat_iff, and_iff_left_iff_imp]
  intro hfront
  have hcount : front.count ".." ≤ front.countP (· != "..") :=
    hfront front (List.prefix_refl front)
  obtain ⟨hup, hdown⟩ := count_concat_of_ne front h
  omega

/-- **Balanced names lead down**, as far as the steps down exceed those
up. -/
theorem exists_walk_eq_append (place : List String) (h : Balanced names) :
    ∃ below, walk place names = place ++ below ∧
      below.length + names.count ".." = names.countP (· != "..") := by
  induction names using List.reverseRecOn with
  | nil => exact ⟨[], (List.append_nil place).symm, rfl⟩
  | append_singleton front name ih =>
    obtain ⟨below, hwalk, hdepth⟩ := ih (balanced_concat_iff.1 h).1
    rw [walk_concat, hwalk, step]
    by_cases hname : name = ".."
    · subst hname
      -- there is a step down for the step up to take back
      have hpos : 0 < below.length := by
        have hlt := (balanced_concat_up_iff.1 h).2
        omega
      obtain ⟨hup, hdown⟩ := count_concat_up front
      refine ⟨below.dropLast, ?_, ?_⟩
      · rw [if_pos rfl, List.dropLast_append_of_ne_nil (List.length_pos_iff.1 hpos)]
      · rw [List.length_dropLast]
        omega
    · obtain ⟨hup, hdown⟩ := count_concat_of_ne front hname
      refine ⟨below ++ [name], ?_, ?_⟩
      · rw [if_neg hname, List.append_assoc]
      · rw [List.length_append, List.length_singleton]
        omega

/-- Balanced names stay in the place they start from. -/
theorem Balanced.stays (h : Balanced names) (place : List String) : Stays place names := by
  intro front hfront
  have hbalanced : Balanced front := fun start hstart => h start (hstart.trans hfront)
  obtain ⟨below, hwalk, -⟩ := exists_walk_eq_append place hbalanced
  exact hwalk ▸ List.prefix_append place below

/-- Names that stay in a place with something outside it are balanced: a
step up from the place itself would lead out of it. -/
theorem Stays.balanced (h : Stays place names) (hplace : place ≠ []) : Balanced names := by
  induction names using List.reverseRecOn with
  | nil =>
    intro front hfront
    rw [List.prefix_nil.1 hfront]
    exact Nat.zero_le 0
  | append_singleton front name ih =>
    obtain ⟨hstays, hlast⟩ := stays_concat_iff.1 h
    have hfront : Balanced front := ih hstays
    by_cases hname : name = ".."
    · subst hname
      obtain ⟨below, hwalk, hdepth⟩ := exists_walk_eq_append place hfront
      rw [walk_concat, hwalk, step, if_pos rfl] at hlast
      have hlength := hlast.length_le
      rw [List.length_dropLast, List.length_append] at hlength
      have hpos := List.length_pos_iff.2 hplace
      exact balanced_concat_up_iff.2 ⟨hfront, by omega⟩
    · exact (balanced_concat_iff_of_ne hname).2 hfront

/-- **Names stay in a place** exactly if they are balanced or the place is
the root. -/
theorem stays_iff : Stays place names ↔ place = [] ∨ Balanced names := by
  constructor
  · exact fun h => or_iff_not_imp_left.2 h.balanced
  · rintro (rfl | h)
    · exact fun front _ => List.nil_prefix
    · exact h.stays place

instance : Decidable (Balanced names) :=
  decidable_of_iff (∀ front ∈ names.inits, front.count ".." ≤ front.countP (· != ".."))
    (by simp only [Balanced, List.mem_inits])

end Path

end TableQuery
