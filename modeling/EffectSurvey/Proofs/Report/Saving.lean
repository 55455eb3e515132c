import EffectSurvey.Proofs.Files.Operations
import EffectSurvey.Report.Delivery

/-! The reports saved to files. One file is replaced at once or not at all, and the four of a group one after
the other, so that after a failure the first ones are complete and the others as they were. -/
namespace EffectSurvey

namespace Work
variable {ε : Type}

theorem bind_unit (work : Work ε Unit) : (do work; pure ()) = work := by
  funext files
  change andThen work (fun _ => succeed ()) files = work files
  unfold andThen
  split <;> simp_all [succeed]

end Work

/-- The files that saving ends with, once a failure has let go of its temporary file. -/
def Failure.settled (done : Done (Except Failure Unit)) : FileTree :=
  match done.value with
  | .ok () => done.files
  | .error failure => failure.release done.files

theorem Failure.files_onFailure_release (work : Work Failure Unit) (files : FileTree) :
    (work.onFailure Failure.release files).files = Failure.settled (work files) := by
  simp only [Work.onFailure, Failure.settled]
  split <;> simp_all

namespace Report

structure Sheet where
  announcement : String
  path : String
  text : String

def sheets (paths : Paths) (s : Summaries) (found : List Finding) (key : SortKey) : List Sheet :=
  [⟨"Saving all results to ", paths.findings, findings found⟩,
   ⟨"Saving pattern totals to ", paths.patterns, patterns s⟩,
   ⟨"Saving summary to ", paths.packages, packages s⟩,
   ⟨"Saving metadata to ", paths.metadata, metadata s key⟩]

def saveEach (disk : Disk) : List Sheet → Work Failure Unit
  | [] => pure ()
  | sheet :: sheets => do
    Work.log .info (sheet.announcement ++ sheet.path)
    save disk sheet.path sheet.text
    saveEach disk sheets

theorem saveAll_eq (disk : Disk) (paths : Paths) (s : Summaries) (found : List Finding) (key : SortKey) :
    saveAll disk paths s found key = saveEach disk (sheets paths s found key) := by
  simp only [saveAll, sheets, saveEach, Work.bind_unit]

/-- The ways in which filling a temporary file can end: it holds the text for all to read, or it is gone. -/
inductive Filling (tree : FileTree) (temporary : Location) (content : String) :
    Except Failure Unit → FileTree → Prop where
  | filled {after : FileTree}
    (filled : tree.Filled temporary (.file (Text.Utf8.encode content) readableMode) after) :
    Filling tree temporary content (.ok ()) after
  | gone {failure : Failure} {after : FileTree} (free : ∀ tree, failure.release tree = tree)
    (alike : tree.Alike after) : Filling tree temporary content (.error failure) after

theorem fill_filling {tree begun : FileTree} {temporary : Location} (disk : Disk) (path content : String)
    (absent : tree.entryAt? temporary = none)
    (empty : tree.Filled temporary (.file [] privateMode) begun) :
    Filling tree temporary content (fill disk temporary path content begun).value
      (fill disk temporary path content begun).files := by
  simp only [fill, Work.onFailure, bind, Work.andThen, Work.mapError, Disk.write]
  cases disk.breaksOff? begun temporary (Text.Utf8.encode content) with
  | some broken =>
    exact .gone (fun _ => rfl) ((empty.put (by simp) _).remove (by simp) absent)
  | none =>
    have written := empty.put (by simp) (.file (Text.Utf8.encode content) privateMode)
    simp only [Except.mapError, Disk.setMode, FileTree.entry_eq_entryAt?, written.entryAt?_self]
    cases disk.refusesMode? _ temporary readableMode with
    | some fault => exact .gone (fun _ => rfl) (written.remove (by simp) absent)
    | none => exact .filled (written.put (by simp) _)

example : fill ⟨fun _ _ _ => some (2, .noSpace), fun _ _ _ => none⟩ ["t"] "q" "text"
    ⟨[("t", .file [] privateMode)], []⟩ = ⟨.error (.unwritten "q" .noSpace), ⟨[], []⟩, []⟩ := rfl

example : fill ⟨fun _ _ _ => none, fun _ _ _ => some .notPermitted⟩ ["t"] "q" "text"
    ⟨[("t", .file [] privateMode)], []⟩ = ⟨.error (.modeRefused "q" .notPermitted), ⟨[], []⟩, []⟩ := rfl

theorem fill_sound {tree begun : FileTree} {temporary : Location} (path content : String)
    (empty : tree.Filled temporary (.file [] privateMode) begun) :
    ∃ after, tree.Filled temporary (.file (Text.Utf8.encode content) readableMode) after ∧
      fill .sound temporary path content begun = ⟨.ok (), after, []⟩ := by
  have written := empty.put (by simp) (.file (Text.Utf8.encode content) privateMode)
  refine ⟨_, written.put (by simp) (.file (Text.Utf8.encode content) readableMode), ?_⟩
  simp only [fill, Work.onFailure, bind, Work.andThen, Work.mapError, Disk.write, Disk.setMode, Disk.sound,
    Except.mapError, FileTree.entry_eq_entryAt?, written.entryAt?_self, List.append_nil]

/-- The ways in which saving one file can end, from files in which its directory has been made as far as
that was possible: it takes its place, or nothing changes, or its temporary file is left with the failure. -/
inductive Saving (made : FileTree) (path content : String) :
    Except Failure Unit → FileTree → Prop where
  | saved {after : FileTree} {dir place : Location}
    (reached : made.stat (Path.directory path) = .ok (dir, .directory))
    (leads : made.Leads path place) (fillable : made.Fillable place)
    (filled : made.Filled place (.file (Text.Utf8.encode content) readableMode) after) :
    Saving made path content (.ok ()) after
  | refused {failure : Failure} {after : FileTree} (free : ∀ tree, failure.release tree = tree)
    (alike : made.Alike after) : Saving made path content (.error failure) after
  | held {after : FileTree} {fault : Fault} {dir : Location}
    (absent : made.entryAt? (dir ++ [made.temporaryName dir]) = none)
    (filled : made.Filled (dir ++ [made.temporaryName dir])
      (.file (Text.Utf8.encode content) readableMode) after) :
    Saving made path content (.error (.unsaved path fault (dir ++ [made.temporaryName dir]))) after

theorem save_saving (disk : Disk) (path content : String) (files : FileTree) :
    Saving (makeDirectories (Path.directory path) files).files path content
      (save disk path content files).value (save disk path content files).files := by
  simp only [save, bind, Work.andThen, Work.mapError, Work.act, Work.change]
  generalize makeDirectories (Path.directory path) files = made
  obtain ⟨value, tree, notes⟩ := made
  cases value with
  | error fault => exact .refused (fun _ => rfl) (.refl tree)
  | ok _ =>
    dsimp only [Except.mapError]
    cases temp : tree.makeTemporary (Path.directory path) with
    | error fault => exact .refused (fun _ => rfl) (.refl tree)
    | ok made =>
      obtain ⟨temporary, begun⟩ := made
      obtain ⟨⟨dir, reached, rfl⟩, absent, empty⟩ := FileTree.makeTemporary_eq_ok temp
      have filling := fill_filling disk path content absent empty
      dsimp only
      generalize fill disk _ path content begun = done at filling
      obtain ⟨value, written, notes⟩ := done
      cases filling with
      | gone free alike => exact .refused free alike
      | filled filled =>
        dsimp only
        cases moved : written.rename (dir ++ [tree.temporaryName dir]) path with
        | error fault => exact .held absent filled
        | ok after =>
          have overlay := FileTree.Overlay.of_filled filled (by simp [absent])
          obtain ⟨place, leads, room, same, renamed⟩ :=
            FileTree.rename_eq_ok filled.entryAt?_self (by simp) moved
          refine .saved reached (overlay.leads leads)
            (room.congr fun other => (overlay.directory_iff other).symm) ⟨same.trans filled.home, ?_⟩
          intro other
          rw [renamed, filled.entries]
          by_cases here : other = place
          · rw [if_pos here, if_pos here]
          · rw [if_neg here, if_neg here]
            split
            · rename_i there
              rw [there, absent]
            · rfl

/-- The tree `t` is the tree `ready` with the reports in the files that their paths lead to there, and nothing
else changed. No directory had to go for that. -/
structure Saved (ready : FileTree) (sheets : List Sheet) (t : FileTree) : Prop where
  home : t.home = ready.home
  holds : ∀ sheet ∈ sheets, ∃ place, ready.Leads sheet.path place ∧
    ready.entryAt? place ≠ some .directory ∧
    t.entryAt? place = some (.file (Text.Utf8.encode sheet.text) readableMode)
  others : ∀ place, (∀ sheet ∈ sheets, ¬ ready.Leads sheet.path place) →
    t.entryAt? place = ready.entryAt? place

namespace Saved
variable {ready made after : FileTree} {earlier : List Sheet} {sheet : Sheet}

theorem nil (ready : FileTree) : Saved ready [] ready := ⟨rfl, by simp, fun _ _ => rfl⟩

theorem congr (saved : Saved ready earlier made) (alike : made.Alike after) :
    Saved ready earlier after := by
  refine ⟨alike.home.trans saved.home, fun sheet member => ?_, fun place apart => ?_⟩
  · obtain ⟨place, leads, free, holds⟩ := saved.holds sheet member
    exact ⟨place, leads, free, (alike.entries place).trans holds⟩
  · exact (alike.entries place).trans (saved.others place apart)

theorem overlay (saved : Saved ready earlier made) : FileTree.Overlay ready made := by
  refine ⟨saved.home, fun place => ?_⟩
  by_cases taken : ∃ sheet ∈ earlier, ready.Leads sheet.path place
  · obtain ⟨sheet, member, leads⟩ := taken
    obtain ⟨here, same, free, holds⟩ := saved.holds sheet member
    rw [leads.unique same]
    exact .inr ⟨free, _, _, holds⟩
  · exact .inl (saved.others place (by simpa using taken))

/-- Saving one more report, whose file is none of the earlier ones. -/
theorem step (saved : Saved ready earlier made)
    (apart : ∀ other ∈ earlier, ∀ place, ready.Leads other.path place →
      ¬ ready.Leads sheet.path place)
    (saving : Saving made sheet.path sheet.text (.ok ()) after) :
    Saved ready (earlier ++ [sheet]) after := by
  cases saving with
  | @saved _ _ target reached leads fillable filled =>
    have there := saved.overlay.leads leads
    refine ⟨filled.home.trans saved.home, fun other member => ?_, fun place free => ?_⟩
    · rcases List.mem_append.mp member with before | new
      · obtain ⟨place, same, free, holds⟩ := saved.holds other before
        have differs : place ≠ target := by
          rintro rfl
          exact apart other before place same there
        exact ⟨place, same, free, by rw [filled.entries, if_neg differs, holds]⟩
      · rw [List.mem_singleton.mp new]
        exact ⟨target, there, (saved.overlay.directory_iff target).not.mpr fillable.1,
          filled.entryAt?_self⟩
    · have differs : place ≠ target := by
        rintro rfl
        exact free sheet (by simp) there
      rw [filled.entries, if_neg differs]
      exact saved.others place fun other before => free other (List.mem_append_left _ before)

/-- A failure changes nothing once it is released. -/
theorem release {failure : Failure} {path content : String} (saved : Saved ready earlier made)
    (saving : Saving made path content (.error failure) after) :
    Saved ready earlier (failure.release after) := by
  cases saving with
  | refused free alike =>
    rw [free]
    exact saved.congr alike
  | held absent filled => exact saved.congr (filled.remove nofun absent)

end Saved

/-- Before a failure is released, at most the file it holds on to is there in addition, under a name that no
report has. -/
theorem Saving.entryAt?_release {made after : FileTree} {path content : String} {failure : Failure}
    (saving : Saving made path content (.error failure) after) (place : Location) :
    after.entryAt? place = (failure.release after).entryAt? place ∨
      (failure.release after).entryAt? place = none ∧
        ∀ name, place.getLast? = some name → '_' ∉ name.toList := by
  cases saving with
  | refused free alike => exact .inl (by rw [free])
  | @held _ _ dir absent filled =>
    have released := filled.remove nofun absent
    rw [Failure.release, released.entries, filled.entries]
    by_cases here : place = dir ++ [made.temporaryName dir]
    · refine .inr ⟨here ▸ absent, fun name last => ?_⟩
      rw [here, List.getLast?_concat] at last
      exact Option.some.inj last ▸ made.not_mem_temporaryName dir
    · exact .inl (if_neg here)

/-- Once a file has been saved, its directory is there, and making it again changes nothing. -/
theorem Saving.makeDirectories_files {made after : FileTree} {path content : String}
    (saving : Saving made path content (.ok ()) after) :
    (makeDirectories (Path.directory path) after).files = after := by
  cases saving with
  | saved reached leads fillable filled =>
    exact (FileTree.Overlay.of_filled filled fillable.1).makeDirectories reached

section SaveEach
variable {disk : Disk} {sheet : Sheet} {t : FileTree}

theorem saveEach_of_ok (sheets : List Sheet) (saved : (save disk sheet.path sheet.text t).value = .ok ()) :
    (saveEach disk (sheet :: sheets) t).value =
        (saveEach disk sheets (save disk sheet.path sheet.text t).files).value ∧
      (saveEach disk (sheet :: sheets) t).files =
        (saveEach disk sheets (save disk sheet.path sheet.text t).files).files := by
  obtain ⟨logged, same⟩ := Work.quiet_log (ε := Failure) .info (sheet.announcement ++ sheet.path) t
  rw [saveEach, Work.value_bind_of_ok logged, Work.files_bind_of_ok logged, same]
  exact ⟨Work.value_bind_of_ok saved, Work.files_bind_of_ok saved⟩

theorem saveEach_of_error (sheets : List Sheet) {failure : Failure}
    (failed : (save disk sheet.path sheet.text t).value = .error failure) :
    (saveEach disk (sheet :: sheets) t).value = .error failure ∧
      (saveEach disk (sheet :: sheets) t).files = (save disk sheet.path sheet.text t).files := by
  obtain ⟨logged, same⟩ := Work.quiet_log (ε := Failure) .info (sheet.announcement ++ sheet.path) t
  rw [saveEach, Work.value_bind_of_ok logged, Work.files_bind_of_ok logged, same]
  exact ⟨Work.value_bind_of_error failed, Work.files_bind_of_error failed⟩

end SaveEach

/-- The reports of one directory, saved one after the other. However many can be saved, these are complete,
and nothing else has changed since the directory was made. -/
theorem saveEach_saved (disk : Disk) {ready : FileTree} {dir : String} (sheets : List Sheet) {earlier : List Sheet}
    {t : FileTree} (inside : ∀ sheet ∈ sheets, Path.directory sheet.path = dir)
    (apart : (earlier ++ sheets).Pairwise fun a b => ∀ place, ready.Leads a.path place →
      ¬ ready.Leads b.path place)
    (saved : Saved ready earlier (makeDirectories dir t).files)
    (last : sheets = [] → (makeDirectories dir t).files = t) :
    let done := saveEach disk sheets t
    ∃ k ≤ sheets.length, (done.value = .ok () ↔ k = sheets.length) ∧
      Saved ready (earlier ++ sheets.take k) (Failure.settled done) ∧
      ∀ place, done.files.entryAt? place = (Failure.settled done).entryAt? place ∨
        (Failure.settled done).entryAt? place = none ∧
          ∀ name, place.getLast? = some name → '_' ∉ name.toList := by
  induction sheets generalizing earlier t with
  | nil =>
    refine ⟨0, Nat.le_refl _, by simp [saveEach, pure, Work.succeed], ?_, fun _ => .inl rfl⟩
    rw [last rfl] at saved
    rw [List.take_nil, List.append_nil]
    exact saved
  | cons sheet sheets ih =>
    intro done
    obtain ⟨here, later⟩ := List.forall_mem_cons.mp inside
    have saving := save_saving disk sheet.path sheet.text t
    rw [here] at saving
    cases value : (save disk sheet.path sheet.text t).value with
    | error failure =>
      rw [value] at saving
      obtain ⟨failed, files⟩ : done.value = _ ∧ done.files = _ := saveEach_of_error sheets value
      have settled : Failure.settled done = failure.release (save disk sheet.path sheet.text t).files := by
        rw [Failure.settled, failed, files]
      refine ⟨0, Nat.zero_le _, by simp [failed], ?_, fun place => ?_⟩
      · rw [settled, List.take_zero, List.append_nil]
        exact saved.release saving
      · rw [settled, files]
        exact saving.entryAt?_release place
    | ok _ =>
      rw [value] at saving
      obtain ⟨values, files⟩ : done.value = _ ∧ done.files = _ := saveEach_of_ok sheets value
      have others : ∀ other ∈ earlier, ∀ place, ready.Leads other.path place →
          ¬ ready.Leads sheet.path place := fun other member =>
        (List.pairwise_append.mp apart).2.2 other member sheet List.mem_cons_self
      have remade := saving.makeDirectories_files
      rw [here] at remade
      have next : Saved ready (earlier ++ [sheet])
          (makeDirectories dir (save disk sheet.path sheet.text t).files).files := by
        rw [remade]
        exact saved.step others saving
      obtain ⟨k, bound, ended, complete, held⟩ :=
        ih later (by simpa using apart) next fun _ => remade
      have settled : Failure.settled done =
          Failure.settled (saveEach disk sheets (save disk sheet.path sheet.text t).files) := by
        simp only [Failure.settled, values, files]
      refine ⟨k + 1, by simpa using bound, ?_, ?_, ?_⟩
      · rw [values, ended, List.length_cons, Nat.add_right_cancel_iff]
      · rw [settled]
        simpa using complete
      · rw [settled, files]
        exact held

section Root
variable {t : FileTree} {path name : String}

structure AtRoot (path name : String) : Prop where
  absolute : Path.isAbsolute path = true
  steps : Path.steps path = [name]
  directory : Path.directory path = "/"
  admissible : FileTree.Admissible path
  lookedUp : FileTree.LookedUp .entry name []

instance (path name : String) : Decidable (AtRoot path name) :=
  decidable_of_iff (Path.isAbsolute path = true ∧ Path.steps path = [name] ∧
    Path.directory path = "/" ∧ FileTree.Admissible path ∧ FileTree.LookedUp .entry name [])
    ⟨fun ⟨absolute, steps, directory, admissible, lookedUp⟩ =>
        ⟨absolute, steps, directory, admissible, lookedUp⟩,
      fun inside => ⟨inside.absolute, inside.steps, inside.directory, inside.admissible,
        inside.lookedUp⟩⟩

theorem stat_root (t : FileTree) : t.stat "/" = .ok ([], .directory) := by
  have steps : Path.steps "/" = [""] := by decide +kernel
  refine FileTree.stat_eq_ok.mpr ⟨by decide +kernel, ?_⟩
  rw [steps, FileTree.origin, if_pos (by decide +kernel)]
  exact .stay (.inl rfl) (.done rfl)

/-- The root is always there. -/
theorem makeDirectories_root (t : FileTree) : makeDirectories "/" t = ⟨.ok (), t, []⟩ := by
  have above : Path.ancestors "/" = ["/"] := by decide +kernel
  have present : t.makeDirectory "/" = .error .alreadyExists := by
    refine FileTree.makeDirectory_of_found (by decide +kernel)
      (show Path.names "/" = [] by decide +kernel) (.done ?_)
    exact (t.origin_in "/").entryAt?_place
  simp only [makeDirectories, above, makeAlong, bind, Work.andThen, Work.attempt, Work.change, present,
    keepDirectory, Work.look, FileTree.isDirectory, stat_root]
  rfl

theorem AtRoot.resolve (inside : AtRoot path name) (t : FileTree) :
    ∃ spot, t.resolve .entry path = .ok spot ∧ spot.place = [name] ∧
      spot.entryAt? = t.entryAt? [name] := by
  have arrives : ∃ spot, t.Walks .entry FileTree.maxLinks [] [name] spot ∧ spot.place = [name] ∧
      spot.entryAt? = t.entryAt? [name] := by
    cases there : t.entryAt? [name] with
    | none => exact ⟨_, .vacant inside.lookedUp rfl there, rfl, rfl⟩
    | some entry =>
      cases entry with
      | directory => exact ⟨_, .enter inside.lookedUp there (.done there), rfl, rfl⟩
      | file content mode => exact ⟨_, .file inside.lookedUp there, rfl, rfl⟩
      | link target => exact ⟨_, .link inside.lookedUp rfl there, rfl, rfl⟩
  obtain ⟨spot, walks, found⟩ := arrives
  refine ⟨spot, FileTree.resolveSteps_eq_ok.mpr ⟨inside.admissible, ?_⟩, found⟩
  rw [inside.steps, FileTree.origin, if_pos inside.absolute]
  exact walks

/-- A report can be saved in the root directory unless a directory has its name or the disk fails. -/
theorem AtRoot.value_save (inside : AtRoot path name) (free : t.entryAt? [name] ≠ some .directory)
    (content : String) : (save .sound path content t).value = .ok () := by
  let temporary : Location := [t.temporaryName []]
  have temp : t.makeTemporary "/" = .ok (temporary, t.put temporary (.file [] privateMode)) := by
    rw [FileTree.makeTemporary, stat_root]
    rfl
  obtain ⟨-, absent, empty⟩ := FileTree.makeTemporary_eq_ok temp
  obtain ⟨written, filled, done⟩ := fill_sound path content empty
  obtain ⟨spot, resolved, -, same⟩ := inside.resolve written
  have still : spot.entryAt? ≠ some .directory := by
    rw [same, filled.entries]
    split
    · nofun
    · exact free
  obtain ⟨after, moved⟩ := FileTree.rename_of_resolve filled.entryAt?_self resolved still
  simp only [save, inside.directory, bind, Work.andThen, Work.mapError, Work.act,
    Work.change, makeDirectories_root, temp, Except.mapError, done, moved]

/-- Reports can be saved in the root directory unless directories have their names. -/
theorem value_saveEach_of_atRoot (sheets : List Sheet)
    (free : ∀ sheet ∈ sheets, ∃ name, AtRoot sheet.path name ∧ t.entryAt? [name] ≠ some .directory) :
    (saveEach .sound sheets t).value = .ok () := by
  induction sheets generalizing t with
  | nil => rfl
  | cons sheet sheets ih =>
    obtain ⟨⟨name, inside, here⟩, later⟩ := List.forall_mem_cons.mp free
    have succeeded := inside.value_save here sheet.text
    have saving := save_saving .sound sheet.path sheet.text t
    rw [succeeded, inside.directory, makeDirectories_root] at saving
    rw [(saveEach_of_ok sheets succeeded).1]
    refine ih fun other member => ?_
    obtain ⟨name, inside, there⟩ := later other member
    refine ⟨name, inside, ?_⟩
    cases saving with
    | saved reached leads fillable filled =>
      rw [filled.entries]
      split
      · nofun
      · exact there

end Root

section Paths
variable {t u : FileTree} {base suffix other : String} {place : Location}

/-- The name of the file that a path leads to is the last one in the path. -/
theorem getLast?_of_leads {before : List String} {last : String} (segments : Path.Segments base before last)
    (ending : Path.Ending suffix) (leads : t.Leads (base ++ suffix) place) :
    place.getLast? = some (last ++ suffix) := by
  obtain ⟨spot, resolved, rfl⟩ := leads
  obtain ⟨-, arrives⟩ := FileTree.resolveSteps_eq_ok.mp resolved
  refine arrives.getLast?_place (Path.getLast?_steps segments ending) (.inr ⟨?_, ?_, ?_⟩)
  · exact ending.ne_empty last
  · exact ending.name_ne (by simp) last
  · exact ending.name_ne (by simp) last

/-- Files whose names have different endings are in different places, in whatever trees one looks. -/
theorem leads_apart (ending : Path.Ending suffix) (another : Path.Ending other)
    (differ : suffix ≠ other) (leads : t.Leads (base ++ suffix) place) :
    ¬ u.Leads (base ++ other) place := by
  intro again
  obtain ⟨before, last, segments⟩ := Path.exists_segments base
  have same := (getLast?_of_leads segments ending leads).symm.trans
    (getLast?_of_leads segments another again)
  exact differ ((String.append_right_inj _).mp (Option.some.inj same))

def endings : List String := ["_all.csv", "_pattern.txt", "_summary.txt", "_metadata.csv"]

theorem ending_of_mem : ∀ suffix ∈ endings, Path.Ending suffix := by
  simp only [endings, List.forall_mem_cons]
  exact ⟨⟨by decide, '_', by decide, by decide⟩, ⟨by decide, '_', by decide, by decide⟩,
    ⟨by decide, '_', by decide, by decide⟩, ⟨by decide, '_', by decide, by decide⟩, nofun⟩

theorem path_sheets (dir start : String) (s : Summaries) (found : List Finding) (key : SortKey) :
    (sheets (Paths.of dir start) s found key).map Sheet.path =
      endings.map (Path.join dir start ++ ·) := by
  have joined (suffix : String) (member : suffix ∈ endings) :
      Path.join dir (start ++ suffix) = Path.join dir start ++ suffix :=
    Path.join_append dir start (ending_of_mem suffix member).slashless
  simp only [sheets, Paths.of, endings, List.map_cons, List.map_nil] at joined ⊢
  rw [joined _ (by simp), joined _ (by simp), joined _ (by simp), joined _ (by simp)]

end Paths

section Deliver
variable (disk : Disk) (files : FileTree) (s : Summaries) (found : List Finding) (key : SortKey)
  (dir start : String)

theorem exists_ending_of_mem_sheets {sheet : Sheet}
    (member : sheet ∈ sheets (Paths.of dir start) s found key) :
    ∃ suffix ∈ endings, Path.join dir start ++ suffix = sheet.path :=
  List.mem_map.mp (path_sheets dir start s found key ▸ List.mem_map_of_mem member)

theorem directory_of_mem_sheets {sheet : Sheet}
    (member : sheet ∈ sheets (Paths.of dir start) s found key) :
    Path.directory sheet.path = Path.directory (Paths.of dir start).findings := by
  obtain ⟨suffix, inside, same⟩ := exists_ending_of_mem_sheets s found key dir start member
  have first : (Paths.of dir start).findings = Path.join dir start ++ "_all.csv" :=
    (List.cons.inj (path_sheets dir start s found key)).1
  rw [← same, first]
  exact Path.directory_append _ (ending_of_mem suffix inside) (ending_of_mem "_all.csv" (by decide))

/-- The name of a report's file holds an underscore. -/
theorem exists_underscore_of_leads {sheet : Sheet} {t : FileTree} {place : Location}
    (member : sheet ∈ sheets (Paths.of dir start) s found key) (leads : t.Leads sheet.path place) :
    ∃ name, place.getLast? = some name ∧ '_' ∈ name.toList := by
  obtain ⟨suffix, inside, same⟩ := exists_ending_of_mem_sheets s found key dir start member
  obtain ⟨before, last, segments⟩ := Path.exists_segments (Path.join dir start)
  rw [← same] at leads
  have underscored : ∀ suffix ∈ endings, '_' ∈ suffix.toList := by decide
  exact ⟨_, getLast?_of_leads segments (ending_of_mem suffix inside) leads,
    by simp [underscored suffix inside]⟩

theorem sheets_apart (t u : FileTree) :
    (sheets (Paths.of dir start) s found key).Pairwise fun a b => ∀ place,
      t.Leads a.path place → ¬ u.Leads b.path place := by
  have distinct : endings.Pairwise (· ≠ ·) := by decide
  have apart : (endings.map (Path.join dir start ++ ·)).Pairwise fun a b => ∀ place,
      t.Leads a place → ¬ u.Leads b place := by
    refine List.pairwise_map.mpr (distinct.imp_of_mem fun first second differ place => ?_)
    exact leads_apart (ending_of_mem _ first) (ending_of_mem _ second) differ
  rw [← path_sheets dir start s found key] at apart
  exact List.pairwise_map.mp apart

/-- The files after some number of reports have been saved, up to what a failure may still hold on to. -/
theorem deliver_saved :
    let paths := Paths.of dir start
    let ready := (makeDirectories (Path.directory paths.findings) files).files
    let done := saveAll disk paths s found key files
    let dropped := deliver disk s found key (.files paths) files
    ∃ k ≤ 4, (done.value = .ok () ↔ k = 4) ∧
      Saved ready ((sheets paths s found key).take k) dropped.files ∧
      ∀ place, done.files.entryAt? place = dropped.files.entryAt? place ∨
        dropped.files.entryAt? place = none ∧
          ∀ name, place.getLast? = some name → '_' ∉ name.toList := by
  intro paths ready done dropped
  have settled : dropped.files = Failure.settled done := Failure.files_onFailure_release _ _
  rw [settled, show done = saveEach disk _ files by rw [← saveAll_eq]]
  have none : Saved ready [] ready := .nil ready
  exact saveEach_saved disk (sheets paths s found key)
    (fun sheet => directory_of_mem_sheets s found key dir start)
    (sheets_apart s found key dir start ready ready) none (by simp [sheets])

end Deliver

/-- The entry is what it was, or there was none and it is a directory that was made on the way to the given
directory, whose path has its name. -/
def Untouched (dir : String) (before after : FileTree) (place : Location) : Prop :=
  after.entryAt? place = before.entryAt? place ∨
    before.entryAt? place = none ∧ after.entryAt? place = some .directory ∧
      ∃ name ∈ Path.names dir, place.getLast? = some name

/-- The first reports stand complete and readable in the places to which their paths lead once their directory
has been made. The places of the others are untouched, and all else that was there is still there. -/
structure InOrder (dir : String) (reports : List Sheet) (files ready : FileTree) (k : Nat)
    (after : FileTree) : Prop where
  complete : ∀ report ∈ reports.take k, ∃ place, ready.Leads report.path place ∧
    after.entryAt? place = some (.file (Text.Utf8.encode report.text) 0o644)
  remaining : ∀ report ∈ reports.drop k, ∀ place,
    files.Leads report.path place ∨ ready.Leads report.path place → Untouched dir files after place
  existing : ∀ place entry, (∀ report ∈ reports.take k, ¬ ready.Leads report.path place) →
    files.entryAt? place = some entry → after.entryAt? place = some entry

/-- What else is put where nothing was, under a name that no report has, changes nothing about that. -/
theorem InOrder.congr {dir base start : String} {s : Summaries} {found : List Finding} {key : SortKey}
    {files ready after other : FileTree} {k : Nat}
    (ordered : InOrder dir (sheets (Paths.of base start) s found key) files ready k after)
    (differ : ∀ place, other.entryAt? place = after.entryAt? place ∨
      after.entryAt? place = none ∧ ∀ name, place.getLast? = some name → '_' ∉ name.toList) :
    InOrder dir (sheets (Paths.of base start) s found key) files ready k other := by
  refine ⟨fun report member => ?_, fun report member place leads => ?_, fun place entry apart there => ?_⟩
  · obtain ⟨place, leads, holds⟩ := ordered.complete report member
    rcases differ place with same | ⟨absent, -⟩
    · exact ⟨place, leads, same.trans holds⟩
    · rw [absent] at holds
      contradiction
  · have kept := ordered.remaining report member place leads
    rcases differ place with same | ⟨-, unlike⟩
    · rwa [Untouched, same]
    · have inside := List.mem_of_mem_drop member
      obtain ⟨name, last, underscore⟩ : ∃ name, place.getLast? = some name ∧ '_' ∈ name.toList := by
        rcases leads with before | later
        · exact exists_underscore_of_leads s found key base start inside before
        · exact exists_underscore_of_leads s found key base start inside later
      exact absurd underscore (unlike name last)
  · have holds := ordered.existing place entry apart there
    rcases differ place with same | ⟨absent, -⟩
    · exact same.trans holds
    · rw [absent] at holds
      contradiction

end Report
end EffectSurvey
