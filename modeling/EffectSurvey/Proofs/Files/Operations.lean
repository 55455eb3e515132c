import EffectSurvey.Proofs.Files.Path
import EffectSurvey.Proofs.Files.Walk
import EffectSurvey.Proofs.Text.Decimal
import EffectSurvey.Proofs.Work
import Mathlib.Data.List.Nodup
import Mathlib.Data.List.Perm.Subperm

/-! What the operations on a tree change. Making the directories along a path adds directories and nothing
else; a temporary file takes a free name; and a file that is moved changes the two places it moves between. -/
namespace EffectSurvey

namespace FileTree
variable {t u a b : FileTree} {place other temporary source : Location} {path dir : String}

/-- The second tree is the first one with new directories, all with names from a list. -/
structure Grown (names : List String) (a b : FileTree) : Prop where
  home : b.home = a.home
  entries : ∀ place, b.entryAt? place = a.entryAt? place ∨
    a.entryAt? place = none ∧ b.entryAt? place = some .directory ∧
      ∃ name ∈ names, place.getLast? = some name

namespace Grown
variable {names : List String}

theorem refl (t : FileTree) : Grown names t t := ⟨rfl, fun _ => .inl rfl⟩

theorem trans (first : Grown names a t) (second : Grown names t b) : Grown names a b := by
  refine ⟨second.home.trans first.home, fun place => ?_⟩
  rcases second.entries place with same | ⟨absent, made, named⟩
  · rw [same]
    exact first.entries place
  · rcases first.entries place with before | ⟨-, already, -⟩
    · exact .inr ⟨before ▸ absent, made, named⟩
    · rw [already] at absent
      cases absent

theorem entryAt?_of_some (grown : Grown names a b) {entry : Entry}
    (found : a.entryAt? place = some entry) : b.entryAt? place = some entry := by
  rcases grown.entries place with same | ⟨absent, -, -⟩
  · exact same.trans found
  · rw [absent] at found
    contradiction

/-- What a walk has found it finds again. -/
theorem walks (grown : Grown names a b) {links : Nat} {here : Location} {steps : List String}
    {entry : Entry} (arrives : a.Walks .target links here steps (.found place entry)) :
    b.Walks .target links here steps (.found place entry) := by
  generalize same : Spot.found place entry = spot at arrives
  induction arrives with
  | done directory => exact .done (grown.entryAt?_of_some directory)
  | stay idle _ ih => exact .stay idle (ih same)
  | up _ ih => exact .up (ih same)
  | vacant => contradiction
  | file step found => exact .file step (grown.entryAt?_of_some found)
  | link step asked found => exact .link step asked (grown.entryAt?_of_some found)
  | enter step found _ ih => exact .enter step (grown.entryAt?_of_some found) (ih same)
  | follow step found onward nonempty _ ih =>
    exact .follow step (grown.entryAt?_of_some found) onward nonempty (ih same)

/-- A walk to a free name leads to the directory that has since been made there, also with a slash behind the
name. -/
theorem walks_of_vacant (grown : Grown names a b) {links : Nat} {here : Location}
    {steps : List String} (arrives : a.Walks .entry links here steps (.vacant place))
    (made : b.entryAt? place = some .directory) {slash : List String} (idle : ∀ name ∈ slash, name = "") :
    b.Walks .target links here (steps ++ slash) (.found place .directory) := by
  generalize same : Spot.vacant place = spot at arrives
  have looked {name : String} {rest : List String} (step : LookedUp .entry name rest) (more : List String) :
      LookedUp .target name more :=
    ⟨step.nonempty, step.notHere, step.notUp, nofun, step.short⟩
  induction arrives with
  | done | file | link => contradiction
  | stay idle _ ih => exact .stay idle (ih same)
  | up _ ih => exact .up (ih same)
  | vacant step directory absent =>
    cases same
    refine .enter (looked step slash) made ?_
    induction slash with
    | nil => exact .done made
    | cons name slash ih =>
      obtain ⟨first, later⟩ := List.forall_mem_cons.mp idle
      exact .stay (.inl first) (ih later)
  | enter step found _ ih => exact .enter (looked step _) (grown.entryAt?_of_some found) (ih same)
  | follow step found _ nonempty _ ih =>
    have later := ih same
    rw [List.append_assoc] at later
    exact .follow (looked step _) (grown.entryAt?_of_some found) nofun nonempty later

theorem housed (grown : Grown names a b) (housed : a.Housed) : b.Housed := by
  unfold Housed
  rw [grown.home]
  exact grown.entryAt?_of_some housed

theorem place_origin (grown : Grown names a b) (housed : a.Housed) (path : String) :
    (b.origin path).place = (a.origin path).place := by
  rw [housed.place_origin, (grown.housed housed).place_origin, grown.home]

theorem pathExists (grown : Grown names a b) (housed : a.Housed)
    (found : a.pathExists path = true) : b.pathExists path = true := by
  obtain ⟨place, entry, found⟩ := pathExists_iff.mp found
  obtain ⟨admissible, arrives⟩ := stat_eq_ok.mp found
  refine pathExists_iff.mpr ⟨place, entry, stat_eq_ok.mpr ⟨admissible, ?_⟩⟩
  rw [grown.place_origin housed]
  exact grown.walks arrives

end Grown

theorem makeDirectory_eq_ok (made : t.makeDirectory path = .ok u) :
    ∃ place, t.entryAt? place = none ∧ t.Fillable place ∧ u = t.put place .directory ∧
      ∃ name ∈ Path.names path, place.getLast? = some name := by
  unfold makeDirectory at made
  split at made
  · contradiction
  · rename_i place resolved
    cases made
    obtain ⟨-, arrives⟩ := resolveSteps_eq_ok.mp resolved
    refine ⟨place, arrives.entryAt?_place, arrives.fillable (by simp [Spot.entryAt?]), rfl, ?_⟩
    cases last : (Path.names path).getLast? with
    | none =>
      rw [List.getLast?_eq_none_iff.mp last] at arrives
      cases arrives
    | some name =>
      exact ⟨name, List.mem_of_getLast? last, arrives.getLast?_place last (.inl rfl)⟩
  · contradiction

theorem makeDirectory_of_found {names : List String} {entry : Entry} (admissible : Admissible path)
    (spelled : Path.names path = names)
    (arrives : t.Walks .entry maxLinks (t.origin path).place names (.found place entry)) :
    t.makeDirectory path = .error .alreadyExists := by
  rw [makeDirectory, spelled, resolveSteps_eq_ok.mpr ⟨admissible, arrives⟩]

theorem grown_of_makeDirectory {names : List String} (made : t.makeDirectory path = .ok u)
    (inside : ∀ name ∈ Path.names path, name ∈ names) : Grown names t u := by
  obtain ⟨place, absent, fillable, rfl, name, member, last⟩ := makeDirectory_eq_ok made
  refine ⟨home_put _ _ _, fun other => ?_⟩
  rw [entryAt?_put fillable]
  by_cases here : other = place
  · subst here
    exact .inr ⟨absent, if_pos rfl, name, inside name member, last⟩
  · exact .inl (if_neg here)

theorem pathExists_of_makeDirectory (housed : t.Housed) (made : t.makeDirectory path = .ok u) :
    u.pathExists path = true := by
  have grown : Grown (Path.names path) t u := grown_of_makeDirectory made fun _ member => member
  unfold makeDirectory at made
  split at made
  · contradiction
  · rename_i place resolved
    cases made
    obtain ⟨admissible, arrives⟩ := resolveSteps_eq_ok.mp resolved
    have fillable : t.Fillable place := arrives.fillable (by simp [Spot.entryAt?])
    have there : (t.put place .directory).entryAt? place = some .directory := by
      rw [entryAt?_put fillable, if_pos rfl]
    refine pathExists_iff.mpr ⟨place, .directory, stat_eq_ok.mpr ⟨admissible, ?_⟩⟩
    rw [grown.place_origin housed]
    unfold Path.steps
    split
    · exact grown.walks_of_vacant arrives there (List.forall_mem_singleton.mpr rfl)
    · have last := grown.walks_of_vacant arrives there (List.forall_mem_nil _)
      rwa [List.append_nil] at last
  · contradiction

/-- A directory that can be reached is not made once more, even if files have been put in its way. -/
theorem Overlay.makeDirectory (overlay : Overlay a b) (found : a.stat path = .ok (place, .directory)) :
    b.makeDirectory path = .error .alreadyExists ∨ b.makeDirectory path = .error .notDirectory := by
  unfold stat at found
  split at found
  · rename_i resolved
    cases found
    obtain ⟨admissible, arrives⟩ := resolveSteps_eq_ok.mp resolved
    obtain ⟨more, steps⟩ : ∃ more, Path.steps path = Path.names path ++ more := by
      unfold Path.steps
      split
      · exact ⟨_, rfl⟩
      · exact ⟨[], (List.append_nil _).symm⟩
    rw [steps, overlay.place_origin] at arrives
    have blocked := overlay.walk_of_directory arrives (b.origin_in path) rfl
    rw [← resolveSteps_of_admissible admissible] at blocked
    rcases blocked with ⟨other, entry, resolved⟩ | refused
    · exact .inl (by rw [FileTree.makeDirectory, resolved])
    · exact .inr (by rw [FileTree.makeDirectory, refused])
  · contradiction
  · contradiction

/-- Of so many different names one is free. -/
theorem find?_temporaryName (t : FileTree) {contents : Folder}
    (found : t.root.folder? place = some contents) :
    contents.find? (t.temporaryName place) = none := by
  simp only [temporaryName, found, Option.getD_some]
  cases free : (List.range (contents.length + 1)).find? fun n =>
      (contents.find? (".tmp" ++ n.repr)).isNone with
  | some n => simpa using List.find?_some free
  | none =>
    have taken : ((List.range (contents.length + 1)).map fun n => ".tmp" ++ n.repr) ⊆
        contents.map Prod.fst := by
      intro name member
      obtain ⟨n, inside, rfl⟩ := List.mem_map.mp member
      have used := List.find?_eq_none.mp free n inside
      by_contra absent
      exact used (by rw [Folder.find?, Table.lookup_eq_none.mpr absent]; rfl)
    have distinct : ((List.range (contents.length + 1)).map fun n => ".tmp" ++ n.repr).Nodup := by
      refine List.Nodup.map (fun m n same => ?_) List.nodup_range
      exact Text.decimal_injective ((String.append_right_inj _).mp same)
    have bound := (List.subperm_of_subset distinct taken).length_le
    simp at bound

/-- The name of a temporary file ends in a number, and no underscore goes before it. -/
theorem not_mem_temporaryName (t : FileTree) (place : Location) :
    '_' ∉ (t.temporaryName place).toList := by
  unfold temporaryName
  intro member
  rcases List.mem_append.mp (String.toList_append ▸ member) with front | number
  · simp at front
  · exact Text.not_mem_decimal (by decide) _ number

theorem makeTemporary_eq_ok (made : t.makeTemporary dir = .ok (temporary, u)) :
    (∃ place, t.stat dir = .ok (place, .directory) ∧
      temporary = place ++ [t.temporaryName place]) ∧
      t.entryAt? temporary = none ∧ t.Filled temporary (.file [] privateMode) u := by
  unfold makeTemporary at made
  split at made
  · rename_i place found
    cases made
    have directory := entryAt?_of_stat found
    obtain ⟨contents, inside⟩ := folder?_isSome directory
    have absent : t.entryAt? (place ++ [t.temporaryName place]) = none := by
      rw [entryAt?_eq, Folder.entryAt?_append inside, Folder.entryAt?_singleton,
        t.find?_temporaryName inside]
      rfl
    have fillable : t.Fillable (place ++ [t.temporaryName place]) :=
      ⟨by simp [absent], _, _, rfl, directory⟩
    exact ⟨⟨place, found, rfl⟩, absent, fillable.filled _⟩
  · contradiction
  · contradiction

/-- Whether a file may be put somewhere is a matter of the directories. -/
theorem Fillable.congr (fillable : t.Fillable place)
    (directories : ∀ other, t.entryAt? other = some .directory ↔ u.entryAt? other = some .directory) :
    u.Fillable place := by
  obtain ⟨free, dir, name, rfl, inside⟩ := fillable
  exact ⟨(directories _).not.mp free, dir, name, rfl, (directories _).mp inside⟩

theorem Fillable.remove (fillable : t.Fillable place) (file : t.Fillable source) :
    (t.remove source).Fillable place := by
  refine fillable.congr fun other => ?_
  rw [entryAt?_remove file]
  split
  · rename_i here
    simp [here, file.1]
  · rfl

/-- A file that is moved over a path leaves its own place and fills the one that the path leads to. -/
theorem rename_eq_ok {entry : Entry} (found : t.entryAt? source = some entry)
    (file : entry ≠ .directory) (moved : t.rename source path = .ok u) :
    ∃ place, t.Leads path place ∧ t.Fillable place ∧ u.home = t.home ∧
      ∀ other, u.entryAt? other =
        if other = place then some entry else if other = source then none else t.entryAt? other := by
  have filled := fillable_of_entryAt? found file
  have placed {spot : Spot} (resolved : t.resolve .entry path = .ok spot)
      (free : spot.entryAt? ≠ some .directory)
      (result : (t.remove source).put spot.place entry = u) :
      ∃ place, t.Leads path place ∧ t.Fillable place ∧ u.home = t.home ∧
        ∀ other, u.entryAt? other =
          if other = place then some entry else if other = source then none else t.entryAt? other := by
    obtain ⟨-, arrives⟩ := resolveSteps_eq_ok.mp resolved
    have fillable := arrives.fillable free
    refine ⟨spot.place, ⟨spot, resolved, rfl⟩, fillable, by simp [← result], fun other => ?_⟩
    rw [← result, entryAt?_put (fillable.remove filled), entryAt?_remove filled]
  unfold rename at moved
  rw [entry_eq_entryAt?, found] at moved
  split at moved
  · contradiction
  · contradiction
  · rename_i other place hidden notDirectory same resolved
    cases same
    exact placed resolved (by simpa [Spot.entryAt?] using notDirectory) (Except.ok.inj moved)
  · rename_i other place same resolved
    cases same
    exact placed resolved (by simp [Spot.entryAt?]) (Except.ok.inj moved)
  · contradiction
  · contradiction

/-- Only a directory is not moved over. -/
theorem rename_of_resolve {entry : Entry} {spot : Spot} (found : t.entryAt? source = some entry)
    (resolved : t.resolve .entry path = .ok spot) (free : spot.entryAt? ≠ some .directory) :
    ∃ u, t.rename source path = .ok u := by
  unfold rename
  rw [entry_eq_entryAt?, found, resolved]
  cases spot with
  | vacant place => exact ⟨_, rfl⟩
  | found place there =>
    cases there with
    | directory => contradiction
    | file content mode => exact ⟨_, rfl⟩
    | link target => exact ⟨_, rfl⟩

end FileTree

section Directories
variable {files a b : FileTree} {path : String} {place : Location}

theorem keepDirectory_files (path : String) (fault : Fault) (files : FileTree) :
    (keepDirectory path fault files).files = files := by
  unfold keepDirectory
  rw [Work.files_bind_of_ok (show (Work.look _ files).value = _ from rfl)]
  split <;> rfl

/-- Where there was a way to the directory, nothing is made. -/
theorem FileTree.Overlay.makeDirectories (overlay : Overlay a b)
    (found : a.stat path = .ok (place, .directory)) : (makeDirectories path b).files = b := by
  have kept (parents : List String) : (makeAlong (path :: parents) b).files = b := by
    rw [makeAlong, Work.files_bind_of_ok (show (Work.attempt _ b).value = _ from rfl)]
    rcases overlay.makeDirectory found with present | blocked
    · simp only [Work.attempt, Work.change, present]
      exact keepDirectory_files _ _ _
    · simp only [Work.attempt, Work.change, blocked]
      exact keepDirectory_files _ _ _
  rw [EffectSurvey.makeDirectories]
  rcases Path.ancestors_eq path with none | ⟨parents, all⟩
  · rw [none]
    rfl
  · rw [all, kept]

end Directories
end EffectSurvey
