import EffectSurvey.Work

/-! What a piece of work gives, through the ways to put work together. -/
namespace EffectSurvey

namespace Work
variable {ε α β : Type} {first : Work ε α} {next : α → Work ε β} {files : FileTree}

theorem value_bind_of_ok {a : α} (succeeded : (first files).value = .ok a) :
    ((first >>= next) files).value = (next a (first files).files).value := by
  change (andThen first next files).value = _
  unfold andThen
  split <;> simp_all

theorem value_bind_of_error {e : ε} (failed : (first files).value = .error e) :
    ((first >>= next) files).value = .error e := by
  change (andThen first next files).value = _
  unfold andThen
  split <;> simp_all

theorem exists_of_bind_eq_ok {b : β} (succeeded : ((first >>= next) files).value = .ok b) :
    ∃ a, (first files).value = .ok a ∧ (next a (first files).files).value = .ok b := by
  cases value : (first files).value with
  | ok a => exact ⟨a, rfl, by rwa [value_bind_of_ok value] at succeeded⟩
  | error e =>
    rw [value_bind_of_error value] at succeeded
    contradiction

theorem files_bind_of_ok {a : α} (succeeded : (first files).value = .ok a) :
    ((first >>= next) files).files = (next a (first files).files).files := by
  change (andThen first next files).files = _
  unfold andThen
  split <;> simp_all

theorem files_bind_of_error {e : ε} (failed : (first files).value = .error e) :
    ((first >>= next) files).files = (first files).files := by
  change (andThen first next files).files = _
  unfold andThen
  split <;> simp_all

theorem notes_bind_of_ok {a : α} (succeeded : (first files).value = .ok a) :
    ((first >>= next) files).notes = (first files).notes ++ (next a (first files).files).notes := by
  change (andThen first next files).notes = _
  unfold andThen
  split <;> simp_all

theorem notes_bind_of_error {e : ε} (failed : (first files).value = .error e) :
    ((first >>= next) files).notes = (first files).notes := by
  change (andThen first next files).notes = _
  unfold andThen
  split <;> simp_all

/-- Work that leaves the files in a relation to those it starts from, whether it fails or not. -/
def Moves (R : FileTree → FileTree → Prop) (work : Work ε α) : Prop :=
  ∀ files, R files (work files).files

/-- What comes after a piece of work need only be looked at for the value it gives. -/
theorem moves_bind_at {R : FileTree → FileTree → Prop} (trans : ∀ {a b c}, R a b → R b c → R a c)
    (moved : R files (first files).files)
    (rest : ∀ a, (first files).value = .ok a →
      R (first files).files (next a (first files).files).files) :
    R files ((first >>= next) files).files := by
  cases value : (first files).value with
  | ok a =>
    rw [files_bind_of_ok value]
    exact trans moved (rest a value)
  | error e =>
    rw [files_bind_of_error value]
    exact moved

theorem Moves.bind {R : FileTree → FileTree → Prop} (trans : ∀ {a b c}, R a b → R b c → R a c)
    (moves : first.Moves R) (rest : ∀ a, (next a).Moves R) : (first >>= next).Moves R :=
  fun files => moves_bind_at trans (moves files) fun a _ => rest a _

def Keeps (work : Work ε α) : Prop := work.Moves fun before after => after = before

theorem Keeps.bind {first : Work ε α} {next : α → Work ε β} (keeps : first.Keeps)
    (rest : ∀ a, (next a).Keeps) : (first >>= next).Keeps :=
  Moves.bind (fun earlier later => later.trans earlier) keeps rest

def Returns (P : Except ε α → Prop) (work : Work ε α) : Prop := ∀ files, P (work files).value

theorem Returns.bind_ok {P : Except ε β → Prop} {a : α} (gives : first.Returns (· = .ok a))
    (rest : (next a).Returns P) : (first >>= next).Returns P := by
  intro files
  rw [value_bind_of_ok (gives files)]
  exact rest _

/-- Work that fails only with errors that satisfy the condition. -/
def FailsWith (P : ε → Prop) (work : Work ε α) : Prop :=
  ∀ files e, (work files).value = .error e → P e

theorem Returns.bind {P : Except ε β → Prop} (failed : first.FailsWith fun e => P (.error e))
    (rest : ∀ a, (next a).Returns P) : (first >>= next).Returns P := by
  intro files
  cases given : (first files).value with
  | ok a =>
    rw [value_bind_of_ok given]
    exact rest a _
  | error e =>
    rw [value_bind_of_error given]
    exact failed files e given

theorem FailsWith.bind {P : ε → Prop} (failed : first.FailsWith P)
    (rest : ∀ a, (next a).FailsWith P) : (first >>= next).FailsWith P := by
  intro files e given
  cases value : (first files).value with
  | ok a =>
    rw [value_bind_of_ok value] at given
    exact rest a _ e given
  | error e' =>
    rw [value_bind_of_error value] at given
    cases given
    exact failed files e value

theorem failsWith_pure {P : ε → Prop} (a : α) : (pure a : Work ε α).FailsWith P := fun _ _ => nofun

theorem failsWith_mapError {δ : Type} {f : ε → δ} {P : δ → Prop} (holds : ∀ e, P (f e))
    (work : Work ε α) : (work.mapError f).FailsWith P := by
  intro files e failed
  change (work files).value.mapError f = .error e at failed
  cases given : (work files).value with
  | ok a =>
    rw [given] at failed
    contradiction
  | error fault =>
    rw [given] at failed
    have same : f fault = e := Except.error.inj failed
    exact same ▸ holds fault

theorem value_onFailure (f : ε → FileTree → FileTree) (work : Work ε α) (files : FileTree) :
    (work.onFailure f files).value = (work files).value := by
  simp only [onFailure]
  split <;> rfl

theorem FailsWith.onFailure {P : ε → Prop} {work : Work ε α} (failed : work.FailsWith P)
    (f : ε → FileTree → FileTree) : (work.onFailure f).FailsWith P := by
  intro files e
  rw [value_onFailure]
  exact failed files e

def Notes (P : Note → Prop) (work : Work ε α) : Prop := ∀ files, ∀ note ∈ (work files).notes, P note

theorem notes_pure {P : Note → Prop} (a : α) : (pure a : Work ε α).Notes P :=
  fun _ => List.forall_mem_nil _

theorem notes_fail {P : Note → Prop} (e : ε) : (fail e : Work ε α).Notes P :=
  fun _ => List.forall_mem_nil _

theorem notes_note {P : Note → Prop} {n : Note} (holds : P n) : (note n : Work ε Unit).Notes P :=
  fun _ => List.forall_mem_singleton.mpr holds

theorem Notes.mapError {δ : Type} {P : Note → Prop} {work : Work ε α} (noted : work.Notes P)
    (f : ε → δ) : (work.mapError f).Notes P := noted

theorem Notes.bind {P : Note → Prop} (noted : first.Notes P) (rest : ∀ a, (next a).Notes P) :
    (first >>= next).Notes P := by
  intro files
  cases value : (first files).value with
  | ok a =>
    rw [notes_bind_of_ok value]
    exact List.forall_mem_append.mpr ⟨noted files, rest a _⟩
  | error e =>
    rw [notes_bind_of_error value]
    exact noted files

theorem notes_forM {P : Note → Prop} {tell : α → Work ε Unit} (noted : ∀ a, (tell a).Notes P)
    (items : List α) : (items.forM tell).Notes P := by
  induction items with
  | nil => exact notes_pure ()
  | cons item items ih => exact (noted item).bind fun _ => ih

/-- Work that cannot fail and leaves the files alone. -/
def Quiet (work : Work ε Unit) : Prop :=
  ∀ files, (work files).value = .ok () ∧ (work files).files = files

theorem quiet_note (n : Note) : (note n : Work ε Unit).Quiet := fun _ => ⟨rfl, rfl⟩

theorem quiet_log (level : Level) (message : String) : (log level message : Work ε Unit).Quiet :=
  quiet_note _

theorem quiet_pure : (pure () : Work ε Unit).Quiet := fun _ => ⟨rfl, rfl⟩

theorem Quiet.keeps {quiet : Work ε Unit} (silent : quiet.Quiet) : quiet.Keeps :=
  fun files => (silent files).2

theorem Quiet.value_bind {quiet : Work ε Unit} (silent : quiet.Quiet) (next : Unit → Work ε β)
    (files : FileTree) : ((quiet >>= next) files).value = (next () files).value := by
  obtain ⟨succeeded, same⟩ := silent files
  rw [value_bind_of_ok succeeded, same]

theorem Quiet.files_bind {quiet : Work ε Unit} (silent : quiet.Quiet) (next : Unit → Work ε β)
    (files : FileTree) : ((quiet >>= next) files).files = (next () files).files := by
  obtain ⟨succeeded, same⟩ := silent files
  rw [files_bind_of_ok succeeded, same]

theorem Quiet.notes_bind {quiet : Work ε Unit} (silent : quiet.Quiet) (next : Unit → Work ε β)
    (files : FileTree) :
    ((quiet >>= next) files).notes = (quiet files).notes ++ (next () files).notes := by
  obtain ⟨succeeded, same⟩ := silent files
  rw [notes_bind_of_ok succeeded, same]

theorem Quiet.returns_bind {quiet : Work ε Unit} {next : Unit → Work ε β} {P : Except ε β → Prop}
    (silent : quiet.Quiet) (rest : (next ()).Returns P) : (quiet >>= next).Returns P := by
  intro files
  rw [silent.value_bind]
  exact rest files

theorem Quiet.failsWith_bind {quiet : Work ε Unit} {next : Unit → Work ε β} {P : ε → Prop}
    (silent : quiet.Quiet) (rest : (next ()).FailsWith P) : (quiet >>= next).FailsWith P := by
  intro files e
  rw [silent.value_bind]
  exact rest files e

theorem quiet_forM {tell : α → Work ε Unit} (silent : ∀ a, (tell a).Quiet) (items : List α) :
    (items.forM tell).Quiet := by
  induction items with
  | nil => exact quiet_pure
  | cons item items ih =>
    intro files
    obtain ⟨succeeded, same⟩ := silent item files
    obtain ⟨value, kept⟩ := ih files
    change (andThen (tell item) (fun _ => items.forM tell) files).value = _ ∧
      (andThen (tell item) (fun _ => items.forM tell) files).files = _
    unfold andThen
    split <;> simp_all

end Work

inductive Matched {ε α β : Type} (R : α → β → Prop) : Except ε α → Except ε β → Prop where
  | ok {a : α} {b : β} (related : R a b) : Matched R (.ok a) (.ok b)
  | error (e : ε) : Matched R (.error e) (.error e)

theorem Matched.eq {ε α : Type} {x y : Except ε α} (matched : Matched (· = ·) x y) : x = y := by
  cases matched with
  | ok same => rw [same]
  | error e => rfl

theorem Matched.refl {ε α : Type} (x : Except ε α) : Matched (· = ·) x x := by
  cases x with
  | ok a => exact .ok rfl
  | error e => exact .error e

theorem Matched.mapError {ε δ α β : Type} {R : α → β → Prop} {x : Except ε α} {y : Except ε β}
    (matched : Matched R x y) (f : ε → δ) : Matched R (x.mapError f) (y.mapError f) := by
  cases matched with
  | ok related => exact .ok related
  | error e => exact .error (f e)

/-- Two pieces of work have ended alike: with the same files, and with the same error or related values.
Their notes may differ. -/
structure Done.Matches {ε α β : Type} (R : α → β → Prop) (x : Done (Except ε α))
    (y : Done (Except ε β)) : Prop where
  value : Matched R x.value y.value
  files : x.files = y.files

namespace Work
variable {ε δ α α' β β' : Type} {R : α → α' → Prop} {S : β → β' → Prop} {files : FileTree}

def Matches (R : α → α' → Prop) (first : Work ε α) (second : Work ε α') : Prop :=
  ∀ files, (first files).Matches R (second files)

theorem Matches.refl (work : Work ε α) : work.Matches (· = ·) work :=
  fun _ => ⟨.refl _, rfl⟩

/-- What comes after work that ends alike need only be compared where the first of the two succeeds. -/
theorem matches_bind_at {first : Work ε α} {second : Work ε α'} {next : α → Work ε β}
    {next' : α' → Work ε β'} (alike : (first files).Matches R (second files))
    (rest : ∀ a a', R a a' → (first files).value = .ok a →
      (next a (first files).files).Matches S (next' a' (first files).files)) :
    ((first >>= next) files).Matches S ((second >>= next') files) := by
  obtain ⟨values, same⟩ := alike
  generalize given : (first files).value = x at values rest
  generalize given' : (second files).value = y at values
  cases values with
  | ok related =>
    have later := rest _ _ related rfl
    constructor
    · rw [value_bind_of_ok given, value_bind_of_ok given', ← same]
      exact later.value
    · rw [files_bind_of_ok given, files_bind_of_ok given', ← same]
      exact later.files
  | error e =>
    constructor
    · rw [value_bind_of_error given, value_bind_of_error given']
      exact .error e
    · rw [files_bind_of_error given, files_bind_of_error given', same]

theorem Matches.bind {first : Work ε α} {second : Work ε α'} {next : α → Work ε β}
    {next' : α' → Work ε β'} (alike : first.Matches R second)
    (rest : ∀ a a', R a a' → (next a).Matches S (next' a')) :
    (first >>= next).Matches S (second >>= next') :=
  fun files => matches_bind_at (alike files) fun a a' related _ => rest a a' related _

/-- The same for the same values. -/
theorem Matches.bind_eq {first second : Work ε α} {next : α → Work ε β} {next' : α → Work ε β'}
    (alike : first.Matches (· = ·) second) (rest : ∀ a, (next a).Matches S (next' a)) :
    (first >>= next).Matches S (second >>= next') :=
  alike.bind fun a _ same => same ▸ rest a

theorem Matches.mapError {first : Work ε α} {second : Work ε α'} (alike : first.Matches R second)
    (f : ε → δ) : (first.mapError f).Matches R (second.mapError f) := by
  intro files
  exact ⟨(alike files).value.mapError f, (alike files).files⟩

theorem Matches.attempt {first second : Work ε α} (alike : first.Matches (· = ·) second) :
    (first.attempt : Work δ (Except ε α)).Matches (· = ·) second.attempt :=
  fun files => ⟨.ok (alike files).value.eq, (alike files).files⟩

end Work
end EffectSurvey
