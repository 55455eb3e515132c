import EffectSurvey.Proofs.Summaries.Merge

/-! Packages that are registered before they are scanned. Registration only fixes the place of a package
among the keys, and a package can be dropped again as long as no scan of it was merged. -/
namespace EffectSurvey.Summaries

theorem withPackages_eq (packages : List String) :
    withPackages packages = ⟨.empty, Table.empty.gather (· + ·) (packages.map (·, 0)), .empty⟩ := by
  have registered : ∀ s : Summaries, packages.foldl register s =
      { s with packages := s.packages.gather (· + ·) (packages.map (·, 0)) } := by
    induction packages with
    | nil => exact fun _ => rfl
    | cons package packages ih =>
      intro s
      rw [List.foldl_cons, ih]
      simp only [register, Counts.add_eq_put, List.map_cons, Table.gather_cons]
  exact registered empty

theorem keys_withPackages (packages : List String) :
    (withPackages packages).packages.keys = packages.eraseDups := by
  simp [withPackages_eq, Table.keys_gather, Function.comp_def]

theorem get?_withPackages (packages : List String) (name : String) :
    (withPackages packages).packages.get? name = if name ∈ packages then some 0 else none := by
  rw [withPackages_eq]
  induction packages with
  | nil => rfl
  | cons package packages ih =>
    dsimp only at ih ⊢
    rw [List.map_cons, Table.gather_cons, Table.get?_gather, Table.get?_put, ih]
    by_cases same : name = package
    · subst same
      by_cases later : name ∈ packages <;> simp [later]
    · simp [same]

theorem packages_foldAll (s : Summaries) (scans : List PackageScan) :
    (s.foldAll scans).packages =
      s.packages.gather (· + ·) (scans.map fun scan => (scan.package, scan.findings.length)) := by
  induction scans generalizing s with
  | nil => rfl
  | cons scan scans ih =>
    refine (ih (s.foldScan scan)).trans ?_
    rw [foldScan, packages_fold]
    rfl

theorem metadata_foldAll (s : Summaries) (scans : List PackageScan) :
    (s.foldAll scans).metadata =
      s.metadata.gather latest (scans.map fun scan => (scan.package, scan.metadata)) := by
  induction scans generalizing s with
  | nil => rfl
  | cons scan scans ih =>
    refine (ih (s.foldScan scan)).trans ?_
    rw [foldScan, metadata_fold]
    rfl

theorem keys_packages_foldAll (scans : List PackageScan) :
    (empty.foldAll scans).packages.keys = (scans.map PackageScan.package).eraseDups := by
  rw [packages_foldAll, Table.keys_gather, List.map_map]
  rfl

theorem keys_metadata_foldAll (scans : List PackageScan) :
    (empty.foldAll scans).metadata.keys = (scans.map PackageScan.package).eraseDups := by
  rw [metadata_foldAll, Table.keys_gather, List.map_map]
  rfl

/-- Registering exactly the packages that are scanned, in their order, makes no difference. -/
theorem withPackages_merge_foldAll (scans : List PackageScan) :
    (withPackages (scans.map PackageScan.package)).merge (empty.foldAll scans) =
      empty.foldAll scans := by
  ext1
  · rw [patterns_merge, withPackages_eq]
    exact Table.empty_join _
  · rw [packages_merge]
    apply Table.eq_of_views
    · rw [Table.keys_join, keys_withPackages, keys_packages_foldAll, eraseDups_eraseDups_append,
        eraseDups_append_eraseDups, eraseDups_append_self]
    · intro name
      rw [Table.get?_join, get?_withPackages]
      split
      · rename_i scanned
        rw [← List.mem_eraseDups, ← keys_packages_foldAll] at scanned
        obtain ⟨count, found⟩ := Table.mem_keys_iff.mp scanned
        simp [found]
      · simp
  · rw [metadata_merge, withPackages_eq]
    exact Table.empty_join _

theorem unregister_eq (s : Summaries) (name : String) :
    s.unregister name =
      if name ∉ s.metadata.keys ∧ s.packages.get? name = some 0 then
        { s with packages := s.packages.erase name }
      else s := by
  have guard : s.metadata.contains name = false ↔ name ∉ s.metadata.keys := by
    rw [← Bool.not_eq_true, Table.contains_iff]
  simp only [unregister, guard]

@[simp] theorem metadata_unregister (s : Summaries) (name : String) :
    (s.unregister name).metadata = s.metadata := by
  rw [unregister_eq]
  split <;> rfl

theorem mem_of_mem_unregister {s : Summaries} {name other : String}
    (member : other ∈ (s.unregister name).packages.keys) : other ∈ s.packages.keys := by
  rw [unregister_eq] at member
  split at member
  · rw [Table.keys_erase] at member
    exact (List.mem_filter.mp member).1
  · exact member

theorem unregister_eq_erase {s : Summaries} {name : String} (absent : name ∉ s.metadata.keys)
    (zero : ∀ count, s.packages.get? name = some count → count = 0) :
    s.unregister name = { s with packages := s.packages.erase name } := by
  rw [unregister_eq]
  split
  · rfl
  · rename_i kept
    have missing : name ∉ s.packages.keys := by
      intro member
      obtain ⟨count, found⟩ := Table.mem_keys_iff.mp member
      exact kept ⟨absent, zero count found ▸ found⟩
    rw [Table.erase_of_not_mem missing]

theorem erase_withPackages (packages : List String) (name : String) :
    (withPackages packages).packages.erase name =
      (withPackages (packages.filter (· ≠ name))).packages := by
  apply Table.eq_of_views
  · rw [Table.keys_erase, keys_withPackages, keys_withPackages, eraseDups_filter]
  · intro other
    rw [Table.get?_erase, get?_withPackages, get?_withPackages]
    by_cases same : other = name <;> simp [same]

/-- Dropping a package that was not scanned is as if it had never been registered. -/
theorem unregister_withPackages_merge {packages : List String} {scans : List PackageScan}
    {name : String} (unscanned : name ∉ scans.map PackageScan.package) :
    ((withPackages packages).merge (empty.foldAll scans)).unregister name =
      (withPackages (packages.filter (· ≠ name))).merge (empty.foldAll scans) := by
  have uncounted : name ∉ (empty.foldAll scans).packages.keys := by
    rwa [keys_packages_foldAll, List.mem_eraseDups]
  rw [unregister_eq_erase]
  · ext1
    · simp only [patterns_merge, withPackages_eq]
    · simp only [packages_merge, Table.erase_join uncounted, erase_withPackages]
    · simp only [metadata_merge, withPackages_eq]
  · rw [metadata_merge, Table.mem_keys_join, keys_metadata_foldAll, List.mem_eraseDups,
      withPackages_eq]
    simpa using unscanned
  · intro count found
    rw [packages_merge, Table.get?_join, get?_withPackages, Table.get?_eq_none.mpr uncounted,
      Option.merge_none_right] at found
    split at found
    · exact (Option.some.inj found).symm
    · contradiction

end EffectSurvey.Summaries
