import EffectSurvey.Files.Tree
import EffectSurvey.Proofs.Table
import Mathlib.Data.List.Induction

/-! A tree of files seen through the entry at each location. Putting an entry where a file may stand, or
taking it away, changes what is seen at that one location. -/
namespace EffectSurvey

namespace Folder
variable {folder contents : Folder} {dir rest place : Location} {name : String}

/-- The entry at a location below a directory. The directory itself is at the empty one. -/
def entryAt? (folder : Folder) : Location → Option Entry
  | [] => some .directory
  | name :: rest =>
    match folder.find? name with
    | some (.directory contents) => entryAt? contents rest
    | some (.file content mode) => if rest = [] then some (.file content mode) else none
    | some (.link target) => if rest = [] then some (.link target) else none
    | none => none

@[simp] theorem entryAt?_nil (folder : Folder) : folder.entryAt? [] = some .directory := rfl

theorem entryAt?_of_absent (absent : folder.find? name = none) (rest : Location) :
    folder.entryAt? (name :: rest) = none := by
  simp [entryAt?, absent]

theorem entryAt?_of_directory (found : folder.find? name = some (.directory contents))
    (rest : Location) : folder.entryAt? (name :: rest) = contents.entryAt? rest := by
  simp [entryAt?, found]

theorem entryAt?_singleton (folder : Folder) (name : String) :
    folder.entryAt? [name] = (folder.find? name).map Node.entry := by
  unfold entryAt?
  split <;> simp_all [Node.entry]

theorem entryAt?_cons_of_find? {other : Folder} (same : folder.find? name = other.find? name)
    (rest : Location) : folder.entryAt? (name :: rest) = other.entryAt? (name :: rest) := by
  simp only [entryAt?, same]

theorem exists_of_folder?_cons {target : Folder}
    (found : folder.folder? (name :: rest) = some target) :
    ∃ contents : Folder, folder.find? name = some (.directory contents) ∧
      contents.folder? rest = some target := by
  unfold folder? at found
  split at found
  · rename_i contents inside
    exact ⟨contents, inside, found⟩
  · contradiction

theorem entryAt?_append (found : folder.folder? dir = some contents) (rest : Location) :
    folder.entryAt? (dir ++ rest) = contents.entryAt? rest := by
  induction dir generalizing folder with
  | nil =>
    cases found
    rfl
  | cons name dir ih =>
    obtain ⟨next, inside, later⟩ := exists_of_folder?_cons found
    rw [List.cons_append, entryAt?_of_directory inside, ih later]

theorem entryAt?_eq_directory_iff :
    folder.entryAt? dir = some .directory ↔ ∃ contents, folder.folder? dir = some contents := by
  induction dir generalizing folder with
  | nil => simp [folder?]
  | cons name dir ih =>
    simp only [entryAt?, folder?]
    split <;> simp_all

theorem entryAt?_append_singleton (dir : Location) (name : String) (folder : Folder) :
    folder.entryAt? (dir ++ [name]) = ((folder.folder? dir).bind (·.find? name)).map Node.entry := by
  induction dir generalizing folder with
  | nil => exact entryAt?_singleton folder name
  | cons first dir ih =>
    simp only [List.cons_append, entryAt?, folder?]
    split <;> simp_all

/-- Only directories have anything below them. -/
theorem entryAt?_below (blocked : folder.entryAt? place ≠ some .directory) (below : rest ≠ []) :
    folder.entryAt? (place ++ rest) = none := by
  induction place generalizing folder with
  | nil => simp at blocked
  | cons name place ih =>
    simp only [List.cons_append, entryAt?] at blocked ⊢
    split <;> simp_all

theorem find?_insert (name other : String) (entry : Entry) (folder : Folder) :
    (folder.insert name entry).find? other =
      if other = name then some entry.node else folder.find? other := by
  rw [find?, insert, Table.lookup_updateEntries]
  rfl

theorem find?_erase (name other : String) (folder : Folder) :
    (folder.erase name).find? other = if other = name then none else folder.find? other := by
  rw [find?, erase, Table.lookup_filter_ne]
  rfl

theorem entryAt?_insert_self (name : String) (entry : Entry) (folder : Folder) (rest : Location) :
    (folder.insert name entry).entryAt? (name :: rest) = if rest = [] then some entry else none := by
  have found := find?_insert name name entry folder
  rw [if_pos rfl] at found
  cases entry with
  | directory =>
    rw [entryAt?_of_directory found]
    cases rest with
    | nil => rfl
    | cons next rest => exact entryAt?_of_absent rfl rest
  | file content mode => simp [entryAt?, found, Entry.node]
  | link target => simp [entryAt?, found, Entry.node]

theorem find?_alter (f : Folder → Folder) (found : folder.find? name = some (.directory contents))
    (rest : Location) (other : String) :
    (alter f folder (name :: rest)).find? other =
      if other = name then some (.directory (alter f contents rest)) else folder.find? other := by
  simp only [alter, found]
  exact Table.lookup_updateEntries _ _ _ _

theorem entryAt?_alter_append (f : Folder → Folder) (found : folder.folder? dir = some contents)
    (rest : Location) : (alter f folder dir).entryAt? (dir ++ rest) = (f contents).entryAt? rest := by
  induction dir generalizing folder with
  | nil =>
    cases found
    rfl
  | cons name dir ih =>
    obtain ⟨next, inside, later⟩ := exists_of_folder?_cons found
    have entered := find?_alter f inside dir name
    rw [if_pos rfl] at entered
    rw [List.cons_append, entryAt?_of_directory entered, ih later]

theorem entryAt?_alter_of_not_prefix (f : Folder → Folder) (found : folder.folder? dir = some contents)
    (apart : ¬ dir <+: place) : (alter f folder dir).entryAt? place = folder.entryAt? place := by
  induction dir generalizing folder place with
  | nil => exact absurd List.nil_prefix apart
  | cons name dir ih =>
    obtain ⟨next, inside, later⟩ := exists_of_folder?_cons found
    cases place with
    | nil => rfl
    | cons first place =>
      have entered := find?_alter f inside dir first
      by_cases same : first = name
      · subst same
        rw [if_pos rfl] at entered
        rw [entryAt?_of_directory entered, entryAt?_of_directory inside]
        exact ih later fun below => apart (List.cons_prefix_cons.mpr ⟨rfl, below⟩)
      · rw [if_neg same] at entered
        exact entryAt?_cons_of_find? entered place

end Folder

namespace FileTree
variable {t : FileTree} {dir place other : Location} {name : String} {entry : Entry}

def entryAt? (t : FileTree) (place : Location) : Option Entry := t.root.entryAt? place

theorem entryAt?_eq (t : FileTree) (place : Location) : t.entryAt? place = t.root.entryAt? place := rfl

/-- The entry is found in the directory above it. -/
theorem entry_eq_entryAt? (t : FileTree) (place : Location) : t.entry? place = t.entryAt? place := by
  unfold entry?
  induction place using List.reverseRecOn with
  | nil => rfl
  | append_singleton dir name ih =>
    rw [entryAt?_eq, Folder.entryAt?_append_singleton]
    simp

@[simp] theorem entryAt?_root (t : FileTree) : t.entryAt? [] = some .directory := rfl

theorem folder?_isSome (inside : t.entryAt? dir = some .directory) :
    ∃ contents, t.root.folder? dir = some contents := by
  rw [entryAt?_eq] at inside
  exact Folder.entryAt?_eq_directory_iff.mp inside

/-- What has an entry is in a directory. -/
theorem entryAt?_parent (found : t.entryAt? (dir ++ [name]) = some entry) :
    t.entryAt? dir = some .directory := by
  rw [entryAt?_eq] at found ⊢
  by_contra blocked
  rw [Folder.entryAt?_below blocked (by simp)] at found
  contradiction

/-- A file may be put here: the place is a name in a directory, and no directory has that name. -/
def Fillable (t : FileTree) (place : Location) : Prop :=
  t.entryAt? place ≠ some .directory ∧
    ∃ dir name, place = dir ++ [name] ∧ t.entryAt? dir = some .directory

theorem fillable_of_entryAt? (found : t.entryAt? place = some entry) (file : entry ≠ .directory) :
    t.Fillable place := by
  refine ⟨by rw [found]; simpa using file, ?_⟩
  induction place using List.reverseRecOn with
  | nil =>
    rw [entryAt?_root] at found
    exact absurd (Option.some.inj found).symm file
  | append_singleton dir name => exact ⟨dir, name, rfl, entryAt?_parent found⟩

@[simp] theorem home_put (t : FileTree) (place : Location) (entry : Entry) :
    (t.put place entry).home = t.home := by
  unfold put
  split <;> rfl

@[simp] theorem home_remove (t : FileTree) (place : Location) : (t.remove place).home = t.home := by
  unfold remove
  split <;> rfl

/-- Where the contents of a directory change at one name only, which no directory has, the tree changes at
that place only. -/
theorem entryAt?_alter {f : Folder → Folder} {result : Option Entry} (fillable : t.Fillable (dir ++ [name]))
    (kept : ∀ contents other, other ≠ name → (f contents).find? other = contents.find? other)
    (changed : ∀ contents rest, (f contents).entryAt? (name :: rest) = if rest = [] then result else none)
    (other : Location) :
    (t.root.alter f dir).entryAt? other = if other = dir ++ [name] then result else t.entryAt? other := by
  obtain ⟨free, parent, last, same, inside⟩ := fillable
  obtain ⟨rfl, rfl⟩ : dir = parent ∧ name = last := by simpa using same
  obtain ⟨contents, found⟩ := folder?_isSome inside
  rw [entryAt?_eq] at free ⊢
  by_cases below : dir <+: other
  · obtain ⟨rest, rfl⟩ := below
    rw [Folder.entryAt?_alter_append f found]
    cases rest with
    | nil =>
      rw [Folder.entryAt?_append found]
      simp
    | cons first rest =>
      by_cases here : first = name
      · subst here
        rw [changed, show dir ++ first :: rest = (dir ++ [first]) ++ rest by simp]
        by_cases final : rest = []
        · simp [final]
        · rw [if_neg final, if_neg (by simpa using final), Folder.entryAt?_below free final]
      · rw [Folder.entryAt?_cons_of_find? (kept contents first here), if_neg (by simp [here]),
          Folder.entryAt?_append found]
  · have apart : other ≠ dir ++ [name] := by
      rintro rfl
      exact below (List.prefix_append _ _)
    rw [if_neg apart, Folder.entryAt?_alter_of_not_prefix f found below]

theorem entryAt?_put (fillable : t.Fillable place) (entry : Entry) (other : Location) :
    (t.put place entry).entryAt? other = if other = place then some entry else t.entryAt? other := by
  obtain ⟨dir, name, rfl, -⟩ := fillable.2
  have root : (t.put (dir ++ [name]) entry).root = t.root.alter (Folder.insert name entry) dir := by
    simp [put]
  rw [entryAt?_eq, root]
  refine entryAt?_alter fillable (fun contents other differs => ?_) (fun contents rest => ?_) other
  · rw [Folder.find?_insert, if_neg differs]
  · exact Folder.entryAt?_insert_self name entry contents rest

theorem entryAt?_remove (fillable : t.Fillable place) (other : Location) :
    (t.remove place).entryAt? other = if other = place then none else t.entryAt? other := by
  obtain ⟨dir, name, rfl, -⟩ := fillable.2
  have root : (t.remove (dir ++ [name])).root = t.root.alter (Folder.erase name) dir := by
    simp [remove]
  rw [entryAt?_eq, root]
  refine entryAt?_alter fillable (fun contents other differs => ?_) (fun contents rest => ?_) other
  · rw [Folder.find?_erase, if_neg differs]
  · rw [Folder.entryAt?_of_absent (by rw [Folder.find?_erase, if_pos rfl])]
    simp

structure Alike (a b : FileTree) : Prop where
  home : b.home = a.home
  entries : ∀ place, b.entryAt? place = a.entryAt? place

theorem Alike.refl (t : FileTree) : Alike t t := ⟨rfl, fun _ => rfl⟩

structure Filled (a : FileTree) (place : Location) (entry : Entry) (b : FileTree) : Prop where
  home : b.home = a.home
  entries : ∀ other, b.entryAt? other = if other = place then some entry else a.entryAt? other

theorem Fillable.filled (fillable : t.Fillable place) (entry : Entry) :
    t.Filled place entry (t.put place entry) :=
  ⟨home_put t place entry, entryAt?_put fillable entry⟩

namespace Filled
variable {a b : FileTree}

theorem entryAt?_self (filled : a.Filled place entry b) : b.entryAt? place = some entry := by
  rw [filled.entries, if_pos rfl]

theorem put (filled : a.Filled place entry b) (file : entry ≠ .directory) (later : Entry) :
    a.Filled place later (b.put place later) := by
  have again := (fillable_of_entryAt? filled.entryAt?_self file).filled later
  refine ⟨again.home.trans filled.home, fun other => ?_⟩
  rw [again.entries, filled.entries]
  split <;> rfl

theorem remove (filled : a.Filled place entry b) (file : entry ≠ .directory)
    (absent : a.entryAt? place = none) : Alike a (b.remove place) := by
  refine ⟨(home_remove b place).trans filled.home, fun other => ?_⟩
  rw [entryAt?_remove (fillable_of_entryAt? filled.entryAt?_self file), filled.entries]
  split
  · rename_i here
    rw [here, absent]
  · rfl

end Filled
end FileTree
end EffectSurvey
