import EffectSurvey.Files.Path
import EffectSurvey.Proofs.Text.Pieces

/-! Paths that end in the same directory under different names: the name is the last step, and all before
it does not depend on it. -/
namespace EffectSurvey.Path

/-- The end of a file's name. It goes on with the last name of a path, and makes it the name of an entry. -/
structure Ending (suffix : String) : Prop where
  slashless : '/' ∉ suffix.toList
  lettered : ∃ c ∈ suffix.toList, c ≠ '.'

/-- Neither nothing nor a run of dots. -/
theorem Ending.name_ne {suffix dots : String} (ending : Ending suffix)
    (dotted : ∀ c ∈ dots.toList, c = '.') (last : String) : last ++ suffix ≠ dots := by
  rintro rfl
  obtain ⟨c, member, letter⟩ := ending.lettered
  exact letter (dotted c (by simp [member]))

theorem Ending.ne_empty {suffix : String} (ending : Ending suffix) (last : String) :
    last ++ suffix ≠ "" :=
  ending.name_ne (by simp) last

/-- The segments of a path: whatever is added to it without a slash only lengthens the last one. -/
structure Segments (base : String) (before : List String) (last : String) : Prop where
  rooted : isAbsolute base = true → before ≠ []
  split : ∀ suffix, '/' ∉ suffix.toList →
    Text.splitAtChar '/' (base ++ suffix) = before ++ [last ++ suffix]

theorem exists_segments (base : String) : ∃ before last, Segments base before last := by
  by_cases slash : '/' ∈ base.toList
  · obtain ⟨tail, init, split, plain⟩ :=
      List.eq_append_cons_of_mem (List.mem_reverse.mpr slash)
    have whole : base.toList = init.reverse ++ '/' :: tail.reverse := by
      simpa using congrArg List.reverse split
    refine ⟨(init.reverse.splitOn '/').map String.ofList, String.ofList tail.reverse, ?_, ?_⟩
    · simp [List.splitOn_ne_nil]
    · intro suffix slashless
      have single : '/' ∉ tail.reverse ++ suffix.toList := by simp [plain, slashless]
      rw [Text.splitAtChar, String.toList_append, whole, List.append_assoc, List.cons_append,
        List.splitOn_append_cons_self, List.splitOn_eq_singleton single, List.map_append]
      simp [String.ofList_append]
  · refine ⟨[], base, fun absolute => ?_, fun suffix slashless => ?_⟩
    · have first : base.toList.head? = some '/' := by simpa [isAbsolute] using absolute
      exact absurd (List.mem_of_mem_head? first) slash
    · have single : '/' ∉ (base ++ suffix).toList := by simp [slash, slashless]
      rw [Text.splitAtChar, List.splitOn_eq_singleton single]
      simp

theorem isAbsolute_append (base : String) {suffix : String} (slashless : '/' ∉ suffix.toList) :
    isAbsolute (base ++ suffix) = isAbsolute base := by
  unfold isAbsolute
  rw [String.toList_append]
  cases chars : base.toList with
  | nil =>
    cases first : suffix.toList with
    | nil => rfl
    | cons c rest =>
      have other : c ≠ '/' := fun same => slashless (by simp [first, same])
      simpa using other
  | cons c rest => rfl

/-- What is joined to a path may be joined name first, ending later. -/
theorem join_append (base start : String) {suffix : String} (slashless : '/' ∉ suffix.toList) :
    join base (start ++ suffix) = join base start ++ suffix := by
  unfold join
  rw [isAbsolute_append start slashless]
  split
  · rfl
  · split <;> simp [String.append_assoc]

theorem endsWithSlash_append (base : String) {suffix : String} (ending : Ending suffix) :
    endsWithSlash (base ++ suffix) = false := by
  obtain ⟨c, member, -⟩ := ending.lettered
  have nonempty : suffix.toList ≠ [] := List.ne_nil_of_mem member
  rw [endsWithSlash, String.toList_append, List.getLast?_append_of_ne_nil _ nonempty,
    List.getLast?_eq_some_getLast nonempty]
  have other : suffix.toList.getLast nonempty ≠ '/' :=
    fun same => ending.slashless (same ▸ List.getLast_mem nonempty)
  simpa using other

section Segments
variable {base suffix last : String} {before : List String}

theorem getLast?_steps (segments : Segments base before last) (ending : Ending suffix) :
    (steps (base ++ suffix)).getLast? = some (last ++ suffix) := by
  have whole := ending.ne_empty last
  rw [steps, endsWithSlash_append base ending, names, segments.split suffix ending.slashless]
  simp [whole]

theorem counts_of_ending (ending : Ending suffix) (absolute first : Bool) (last : String) :
    counts absolute first (last ++ suffix) = true := by
  have empty := ending.ne_empty last
  have dot : last ++ suffix ≠ "." := ending.name_ne (by simp) last
  simp [counts, empty, dot]

def parentsOf (absolute : Bool) (before : List String) : List String :=
  if absolute then (leadingParts true (before.drop 1).reverse).map ("/" ++ ·) ++ ["/"]
  else leadingParts false before.reverse

theorem ancestors_append (segments : Segments base before last) (ending : Ending suffix) :
    ancestors (base ++ suffix) = (base ++ suffix) :: parentsOf (isAbsolute base) before := by
  simp only [ancestors, segments.split suffix ending.slashless,
    isAbsolute_append base ending.slashless, parentsOf]
  cases absolute : isAbsolute base with
  | false => simp [leadingParts, counts_of_ending ending]
  | true =>
    obtain ⟨first, rest, rfl⟩ := List.exists_cons_of_ne_nil (segments.rooted absolute)
    simp [leadingParts, counts_of_ending ending]

/-- Files whose names differ in their endings only are in one directory. -/
theorem directory_append (base : String) {suffix other : String} (ending : Ending suffix)
    (another : Ending other) : directory (base ++ suffix) = directory (base ++ other) := by
  obtain ⟨before, last, segments⟩ := exists_segments base
  simp only [directory, parent?, ancestors_append segments ending,
    ancestors_append segments another, isAbsolute_append base ending.slashless,
    isAbsolute_append base another.slashless]
  cases parentsOf (isAbsolute base) before <;> rfl

end Segments

theorem ancestors_eq (path : String) : ancestors path = [] ∨ ∃ above, ancestors path = path :: above := by
  unfold ancestors
  dsimp only
  split
  · exact .inl rfl
  · exact .inr ⟨_, rfl⟩

end EffectSurvey.Path
